import SnakeSocks.Lib.Bytes
import SnakeSocks.Lib.Lts

/-!
# A session of the Go server (`server-go/src/server/server.go`)

| here | there |
| --- | --- |
| `ProxyPc` | `proxy` (`server.go:122`) with `checkFirst` (`:149`) inlined where it is called |
| `C2sPc`   | `dealc2s` (`:220`) |
| `S2rPc`   | `deals2r` (`:252`) |
| `R2sPc`   | `dealr2s` (`:281`), its first and its second `select` |
| `ReaderPc` | the goroutine started inside `dealr2s` (`:293`) |
| `S2cPc`   | `deals2c` (`:318`) |
| `Feed`    | `if c.dst == nil { dial; chanStart; chanStart }; chans2r <- data`, which `checkFirst` (`:194-201`) and `dealc2s` (`:239-248`) share |
| `dialAddr` | the address of `dial` (`:206`) |
| `frame`, header and body steps | `BssRW.WriteB` (`util.go:69`), two `Write` calls |

One step is one channel operation, one `wg` operation, one `Read`/`Write`/`Dial`/`LookupIP`, or the return of a
module call; a goroutine whose program counter is at `decode` or `encode` is inside that call. A `select` with
several ready cases offers all of them. A `Write` succeeds, or fails after any number of bytes. `chans2r`,
`chans2c` and `eCh` have capacity 1 and are an `Option` or a `Bool`; the `End` channels carry no data and are
counted; `chanc2sEnd` is never used by the code. A negative `WaitGroup` counter panics: nothing moves any more.
-/

namespace SnakeSocks.Go

open ByteLib

/-! ## Data -/

/-- `client_query` as the Go code reads it. -/
structure Query where
  ip : Vector UInt8 16
  port : UInt16
  payload : Bytes
deriving DecidableEq

/-- The module's `server_decode` and `server_encode` on this connection. -/
structure Codec where
  decode : Bytes → Query
  encode : Query → Bytes

/-- `"__m_str_dns_head_32__snakesocks_"`. -/
def dnsHead : Bytes :=
  [0x5f, 0x5f, 0x6d, 0x5f, 0x73, 0x74, 0x72, 0x5f, 0x64, 0x6e, 0x73, 0x5f, 0x68, 0x65, 0x61, 0x64,
   0x5f, 0x33, 0x32, 0x5f, 0x5f, 0x73, 0x6e, 0x61, 0x6b, 0x65, 0x73, 0x6f, 0x63, 0x6b, 0x73, 0x5f]

/-- The answer of `checkFirst` to a name: `"-1"`, or the byte 6 and the address. -/
def dnsAnswer : Option (Vector UInt8 16) → Query
  | none => ⟨Vector.replicate 16 0, 0, dnsHead ++ [0x2d, 0x31]⟩
  | some ip => ⟨ip, 0, dnsHead ++ 6 :: ip.toList⟩

/-- What `deals2c` encodes: a chunk under a zero address. -/
def chunkQuery (d : Bytes) : Query := ⟨Vector.replicate 16 0, 0, d⟩

def frameHeader (body : Bytes) : Bytes := beBytes 4 body.length

def frame (body : Bytes) : Bytes := frameHeader body ++ body

/-- `net.JoinHostPort` of the two halves: the port's bytes are swapped. -/
def dialAddr (q : Query) : Vector UInt8 16 × UInt16 :=
  (q.ip, UInt16.ofNat (beNat (leBytes 2 q.port.toNat)))

/-! ## Program counters -/

/-- Handing one payload to `deals2r`; `start again` are the two `chanStart` sends, `again` for the first. -/
inductive Feed where
  | dial (q : Query)
  | start (again : Bool) (d : Bytes)
  | push (d : Bytes)
deriving DecidableEq

/-- In the `dns` counters `failed` says that the lookup failed, so that `checkFirst` returns its error. -/
inductive ProxyPc where
  | goS2r | goR2s | goS2c | add3
  | read
  | decode (pkt : Bytes)
  | lookup (domain : Bytes)
  | dnsEncode (q : Query) (failed : Bool)
  | dnsHeader (body : Bytes) (failed : Bool)
  | dnsBody (body : Bytes) (failed : Bool)
  | feed (f : Feed)
  | goC2s | add1
  | errEnd
  | wait | close | done
deriving DecidableEq

inductive C2sPc where
  | idle
  | read
  | decode (pkt : Bytes)
  | feed (f : Feed)
  | exit | wgDone | done
deriving DecidableEq

inductive S2rPc where
  | idle
  | select0
  | loop
  | write (d : Bytes)
  | exit | wgDone | done
deriving DecidableEq

inductive R2sPc where
  | idle
  | select0
  | spawn
  | select1
  | exit | wgDone | done
deriving DecidableEq

inductive ReaderPc where
  | idle
  | read
  | push (d : Bytes)
  | sendErr
  | done
deriving DecidableEq

inductive S2cPc where
  | idle
  | loop
  | encode (d : Bytes)
  | header (body : Bytes)
  | body (body : Bytes)
  | exit | wgDone | done
deriving DecidableEq

/-! ## States -/

structure State where
  proxy : ProxyPc
  c2s : C2sPc
  s2r : S2rPc
  r2s : R2sPc
  reader : ReaderPc
  s2c : S2cPc
  chans2r : Option Bytes
  chans2c : Option Bytes
  chans2rEnd : Nat
  chanr2sEnd : Nat
  chans2cEnd : Nat
  eCh : Bool
  wg : Int
  /-- `c.dst`: the address dialled. -/
  dst : Option (Vector UInt8 16 × UInt16)
  /-- Frames that arrived from the client; `none` is one `ReadB` refuses. -/
  cliIn : List (Option Bytes)
  cliClosed : Bool
  dstIn : Bytes
  dstClosed : Bool
  /-- Everything written to the two connections since authentication. -/
  cliOut : Bytes
  dstOut : Bytes
  /-- History: all frames the client sent, the packets `ReadB` returned, the data payloads decoded from them. -/
  arrived : List (Option Bytes)
  taken : List Bytes
  decoded : List Bytes
  /-- History: the DNS answer's frame, the chunks read from the destination. -/
  dnsFrame : Bytes
  chunks : List Bytes

def State.init : State where
  proxy := .goS2r
  c2s := .idle
  s2r := .idle
  r2s := .idle
  reader := .idle
  s2c := .idle
  chans2r := none
  chans2c := none
  chans2rEnd := 0
  chanr2sEnd := 0
  chans2cEnd := 0
  eCh := false
  wg := 0
  dst := none
  cliIn := []
  cliClosed := false
  dstIn := []
  dstClosed := false
  cliOut := []
  dstOut := []
  arrived := []
  taken := []
  decoded := []
  dnsFrame := []
  chunks := []

/-- A `ReadB` on the client connection returns an error. -/
def State.cliReadFails (s : State) : Prop := (s.cliIn = [] ∧ s.cliClosed = true) ∨ s.cliIn.head? = some none

instance (s : State) : Decidable s.cliReadFails := inferInstanceAs (Decidable (_ ∨ _))

/-! ## Steps -/

inductive Act where
  -- proxy and checkFirst
  | goDeals2r | goDealr2s | goDeals2c | wgAdd3
  | firstRead (pkt : Bytes)
  | firstReadErr
  | firstDecode (pkt : Bytes)
  | lookup (domain : Bytes) (ip : Option (Vector UInt8 16))
  | dnsEncode (q : Query) (failed : Bool)
  | dnsHeader (body : Bytes) (failed : Bool)
  | dnsHeaderErr (body : Bytes) (failed : Bool) (k : Nat)
  | dnsBody (body : Bytes) (failed : Bool)
  | dnsBodyErr (body : Bytes) (failed : Bool) (k : Nat)
  | firstDial (q : Query)
  | firstDialErr (q : Query)
  | firstStartS2r (again : Bool) (d : Bytes)
  | firstStartR2s (again : Bool) (d : Bytes)
  | firstPush (d : Bytes)
  | goDealc2s | wgAdd1 | sendEnd | wgWait | connClose
  -- dealc2s
  | c2sRead (pkt : Bytes)
  | c2sReadErr
  | c2sDecode (pkt : Bytes)
  | c2sDial (q : Query)
  | c2sDialErr (q : Query)
  | c2sStartS2r (again : Bool) (d : Bytes)
  | c2sStartR2s (again : Bool) (d : Bytes)
  | c2sPush (d : Bytes)
  | c2sExit | c2sDone
  -- deals2r
  | s2rEnd0
  | s2rTake (d : Bytes)
  | s2rWrite (d : Bytes)
  | s2rWriteErr (d : Bytes) (k : Nat)
  | s2rEnd
  | s2rExit | s2rDone
  -- dealr2s
  | r2sEnd0 | r2sSpawn | r2sErr | r2sEnd
  | r2sExit | r2sDone
  -- its reader
  | readerRead (n : Nat)
  | readerReadErr
  | readerPush (d : Bytes)
  | readerSendErr
  -- deals2c
  | s2cTake (d : Bytes)
  | s2cEncode (d : Bytes)
  | s2cHeader (body : Bytes)
  | s2cHeaderErr (body : Bytes) (k : Nat)
  | s2cBody (body : Bytes)
  | s2cBodyErr (body : Bytes) (k : Nat)
  | s2cEnd
  | s2cExit | s2cDone
  -- the peers
  | cliSend (p : Option Bytes)
  | cliClose | cliReset
  | dstSend (bs : Bytes)
  | dstClose | dstReset

/-- A step of one of the two peers, not of the session. -/
def Act.isPeer : Act → Bool
  | .cliSend _ | .cliClose | .cliReset | .dstSend _ | .dstClose | .dstReset => true
  | _ => false

/-- After `dial`: the first of the two `chanStart` sends. -/
def Feed.next (again : Bool) (d : Bytes) : Feed := if again then .start false d else .push d

/-- Where a decoded data payload goes: `c.dst == nil` decides. -/
def Feed.ofQuery (dst : Option (Vector UInt8 16 × UInt16)) (q : Query) : Feed :=
  if dst = none then .dial q else .push q.payload

/-- `checkFirst` takes a payload that starts with the DNS head for a question (`server.go:159`). -/
def ProxyPc.ofFirst (dst : Option (Vector UInt8 16 × UInt16)) (q : Query) : ProxyPc :=
  if dnsHead <+: q.payload then .lookup (q.payload.drop 32) else .feed (.ofQuery dst q)

/-- The data in the first packet: none if it is a question. -/
def firstData (q : Query) : List Bytes := if dnsHead <+: q.payload then [] else [q.payload]

/-- What must hold for a step to be taken. -/
def Guard (s : State) : Act → Prop
  | .goDeals2r => s.proxy = .goS2r
  | .goDealr2s => s.proxy = .goR2s
  | .goDeals2c => s.proxy = .goS2c
  | .wgAdd3 => s.proxy = .add3
  | .firstRead pkt => s.proxy = .read ∧ s.cliIn.head? = some (some pkt)
  | .firstReadErr => s.proxy = .read ∧ s.cliReadFails
  | .firstDecode pkt => s.proxy = .decode pkt
  | .lookup domain _ => s.proxy = .lookup domain
  | .dnsEncode q failed => s.proxy = .dnsEncode q failed
  | .dnsHeader body failed => s.proxy = .dnsHeader body failed
  | .dnsHeaderErr body failed _ => s.proxy = .dnsHeader body failed
  | .dnsBody body failed => s.proxy = .dnsBody body failed
  | .dnsBodyErr body failed _ => s.proxy = .dnsBody body failed
  | .firstDial q => s.proxy = .feed (.dial q)
  | .firstDialErr q => s.proxy = .feed (.dial q)
  | .firstStartS2r again d => s.proxy = .feed (.start again d) ∧ s.s2r = .select0
  | .firstStartR2s again d => s.proxy = .feed (.start again d) ∧ s.r2s = .select0
  | .firstPush d => s.proxy = .feed (.push d) ∧ s.chans2r = none
  | .goDealc2s => s.proxy = .goC2s
  | .wgAdd1 => s.proxy = .add1
  | .sendEnd => s.proxy = .errEnd ∧ s.chans2rEnd < 2
  | .wgWait => s.proxy = .wait ∧ s.wg = 0
  | .connClose => s.proxy = .close
  | .c2sRead pkt => s.c2s = .read ∧ s.cliIn.head? = some (some pkt)
  | .c2sReadErr => s.c2s = .read ∧ s.cliReadFails
  | .c2sDecode pkt => s.c2s = .decode pkt
  | .c2sDial q => s.c2s = .feed (.dial q)
  | .c2sDialErr q => s.c2s = .feed (.dial q)
  | .c2sStartS2r again d => s.c2s = .feed (.start again d) ∧ s.s2r = .select0
  | .c2sStartR2s again d => s.c2s = .feed (.start again d) ∧ s.r2s = .select0
  | .c2sPush d => s.c2s = .feed (.push d) ∧ s.chans2r = none
  | .c2sExit => s.c2s = .exit ∧ s.chans2rEnd < 2
  | .c2sDone => s.c2s = .wgDone
  | .s2rEnd0 => s.s2r = .select0 ∧ 0 < s.chans2rEnd
  | .s2rTake d => s.s2r = .loop ∧ s.chans2r = some d
  | .s2rWrite d => s.s2r = .write d
  | .s2rWriteErr d _ => s.s2r = .write d
  | .s2rEnd => s.s2r = .loop ∧ 0 < s.chans2rEnd
  | .s2rExit => s.s2r = .exit ∧ s.chanr2sEnd < 2
  | .s2rDone => s.s2r = .wgDone
  | .r2sEnd0 => s.r2s = .select0 ∧ 0 < s.chanr2sEnd
  | .r2sSpawn => s.r2s = .spawn
  | .r2sErr => s.r2s = .select1 ∧ s.eCh = true
  | .r2sEnd => s.r2s = .select1 ∧ 0 < s.chanr2sEnd
  | .r2sExit => s.r2s = .exit ∧ s.chans2cEnd < 2
  | .r2sDone => s.r2s = .wgDone
  | .readerRead n => s.reader = .read ∧ 0 < n ∧ n ≤ 1024 ∧ n ≤ s.dstIn.length
  | .readerReadErr => s.reader = .read ∧ s.dstIn = [] ∧ s.dstClosed = true
  | .readerPush d => s.reader = .push d ∧ s.chans2c = none
  | .readerSendErr => s.reader = .sendErr ∧ s.eCh = false
  | .s2cTake d => s.s2c = .loop ∧ s.chans2c = some d
  | .s2cEncode d => s.s2c = .encode d
  | .s2cHeader body => s.s2c = .header body
  | .s2cHeaderErr body _ => s.s2c = .header body
  | .s2cBody body => s.s2c = .body body
  | .s2cBodyErr body _ => s.s2c = .body body
  | .s2cEnd => s.s2c = .loop ∧ 0 < s.chans2cEnd
  | .s2cExit => s.s2c = .exit ∧ s.chans2cEnd < 2
  | .s2cDone => s.s2c = .wgDone
  | .cliSend _ => s.cliClosed = false
  | .cliClose | .cliReset => s.cliClosed = false
  | .dstSend _ => s.dst ≠ none ∧ s.dstClosed = false
  | .dstClose | .dstReset => s.dst ≠ none ∧ s.dstClosed = false

def Step (M : Codec) (s : State) : Act → State
  | .goDeals2r => { s with proxy := .goR2s, s2r := .select0 }
  | .goDealr2s => { s with proxy := .goS2c, r2s := .select0 }
  | .goDeals2c => { s with proxy := .add3, s2c := .loop }
  | .wgAdd3 => { s with proxy := .read, wg := s.wg + 3 }
  | .firstRead pkt => { s with proxy := .decode pkt, cliIn := s.cliIn.tail, taken := s.taken ++ [pkt] }
  | .firstReadErr => { s with proxy := .errEnd }
  | .firstDecode pkt =>
    { s with proxy := .ofFirst s.dst (M.decode pkt), decoded := s.decoded ++ firstData (M.decode pkt) }
  | .lookup _ ip => { s with proxy := .dnsEncode (dnsAnswer ip) ip.isNone }
  | .dnsEncode q failed =>
    { s with proxy := .dnsHeader (M.encode q) failed, dnsFrame := frame (M.encode q) }
  | .dnsHeader body failed => { s with proxy := .dnsBody body failed, cliOut := s.cliOut ++ frameHeader body }
  | .dnsHeaderErr body _ k => { s with proxy := .errEnd, cliOut := s.cliOut ++ (frameHeader body).take k }
  | .dnsBody body failed =>
    { s with proxy := if failed then .errEnd else .goC2s, cliOut := s.cliOut ++ body }
  | .dnsBodyErr body _ k => { s with proxy := .errEnd, cliOut := s.cliOut ++ body.take k }
  | .firstDial q => { s with proxy := .feed (.start true q.payload), dst := some (dialAddr q) }
  | .firstDialErr _ => { s with proxy := .errEnd }
  | .firstStartS2r again d => { s with proxy := .feed (.next again d), s2r := .loop }
  | .firstStartR2s again d => { s with proxy := .feed (.next again d), r2s := .spawn }
  | .firstPush d => { s with proxy := .goC2s, chans2r := some d }
  | .goDealc2s => { s with proxy := .add1, c2s := .read }
  | .wgAdd1 => { s with proxy := .wait, wg := s.wg + 1 }
  | .sendEnd => { s with proxy := .wait, chans2rEnd := s.chans2rEnd + 1 }
  | .wgWait => { s with proxy := .close }
  | .connClose => { s with proxy := .done }
  | .c2sRead pkt => { s with c2s := .decode pkt, cliIn := s.cliIn.tail, taken := s.taken ++ [pkt] }
  | .c2sReadErr => { s with c2s := .exit }
  | .c2sDecode pkt =>
    { s with c2s := .feed (.ofQuery s.dst (M.decode pkt)), decoded := s.decoded ++ [(M.decode pkt).payload] }
  | .c2sDial q => { s with c2s := .feed (.start true q.payload), dst := some (dialAddr q) }
  | .c2sDialErr _ => { s with c2s := .exit }
  | .c2sStartS2r again d => { s with c2s := .feed (.next again d), s2r := .loop }
  | .c2sStartR2s again d => { s with c2s := .feed (.next again d), r2s := .spawn }
  | .c2sPush d => { s with c2s := .read, chans2r := some d }
  | .c2sExit => { s with c2s := .wgDone, chans2rEnd := s.chans2rEnd + 1 }
  | .c2sDone => { s with c2s := .done, wg := s.wg - 1 }
  | .s2rEnd0 => { s with s2r := .exit, chans2rEnd := s.chans2rEnd - 1 }
  | .s2rTake d => { s with s2r := .write d, chans2r := none }
  | .s2rWrite d => { s with s2r := .loop, dstOut := s.dstOut ++ d }
  | .s2rWriteErr d k => { s with s2r := .exit, dstOut := s.dstOut ++ d.take k }
  | .s2rEnd => { s with s2r := .exit, chans2rEnd := s.chans2rEnd - 1 }
  | .s2rExit => { s with s2r := .wgDone, chanr2sEnd := s.chanr2sEnd + 1 }
  | .s2rDone => { s with s2r := .done, wg := s.wg - 1 }
  | .r2sEnd0 => { s with r2s := .exit, chanr2sEnd := s.chanr2sEnd - 1 }
  | .r2sSpawn => { s with r2s := .select1, reader := .read }
  | .r2sErr => { s with r2s := .exit, eCh := false }
  | .r2sEnd => { s with r2s := .exit, chanr2sEnd := s.chanr2sEnd - 1 }
  | .r2sExit => { s with r2s := .wgDone, chans2cEnd := s.chans2cEnd + 1 }
  | .r2sDone => { s with r2s := .done, wg := s.wg - 1 }
  | .readerRead n =>
    { s with reader := .push (s.dstIn.take n), dstIn := s.dstIn.drop n, chunks := s.chunks ++ [s.dstIn.take n] }
  | .readerReadErr => { s with reader := .sendErr }
  | .readerPush d => { s with reader := .read, chans2c := some d }
  | .readerSendErr => { s with reader := .done, eCh := true }
  | .s2cTake d => { s with s2c := .encode d, chans2c := none }
  | .s2cEncode d => { s with s2c := .header (M.encode (chunkQuery d)) }
  | .s2cHeader body => { s with s2c := .body body, cliOut := s.cliOut ++ frameHeader body }
  | .s2cHeaderErr body k => { s with s2c := .exit, cliOut := s.cliOut ++ (frameHeader body).take k }
  | .s2cBody body => { s with s2c := .loop, cliOut := s.cliOut ++ body }
  | .s2cBodyErr body k => { s with s2c := .exit, cliOut := s.cliOut ++ body.take k }
  | .s2cEnd => { s with s2c := .exit, chans2cEnd := s.chans2cEnd - 1 }
  | .s2cExit => { s with s2c := .wgDone, chans2cEnd := s.chans2cEnd + 1 }
  | .s2cDone => { s with s2c := .done, wg := s.wg - 1 }
  | .cliSend p => { s with cliIn := s.cliIn ++ [p], arrived := s.arrived ++ [p] }
  | .cliClose => { s with cliClosed := true }
  | .cliReset => { s with cliIn := [], cliClosed := true }
  | .dstSend bs => { s with dstIn := s.dstIn ++ bs }
  | .dstClose => { s with dstClosed := true }
  | .dstReset => { s with dstIn := [], dstClosed := true }

instance (s : State) : ∀ a, Decidable (Guard s a) := by
  intro a
  cases a <;> dsimp only [Guard] <;> infer_instance

/-- The session of one authenticated client. -/
def session (M : Codec) : Lts.System State Act where
  init := .init
  enabled s a := 0 ≤ s.wg ∧ Guard s a
  next := Step M

instance (M : Codec) (s : State) (a : Act) : Decidable ((session M).enabled s a) :=
  inferInstanceAs (Decidable (0 ≤ s.wg ∧ Guard s a))

end SnakeSocks.Go
