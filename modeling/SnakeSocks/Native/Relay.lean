import SnakeSocks.Lib.Lts
import SnakeSocks.Native.Readall
import SnakeSocks.Native.Sio

/-!
# `skcli` and `sksrv` after authentication

| here | there |
| --- | --- |
| `clientIter`, `appReadable`, `clientHop` | one round of `Socks5Connection::passData` (`socks5.cc:306-349`) |
| `serverIter`, `serverConn`, `nextHopReadable` | one round of `inbound_tunnel::dealConnectionImpl` (`tunnel.cc:194-256`) |
| `recvLengthAndPacket` | `NetLib::recv_length_and_packet` (`NetLib.hpp:38`) |
| `isDnsQuery`, `getDomainFromDnsQuery`, `ipArrayToStr` | the functions of that name in `NetLib.hpp` |

The two loops are joined by a reliable byte stream in each direction. A step is one whole round of one loop, with
one or both of its sockets readable. What the reads on the application's and the destination's socket find is a
script, as in `Native/Sio.lean`, so every stream and every way of splitting it is covered; a `recvn` on the tunnel takes
exactly its bytes whatever the splits are (`Sio.recvn_ok`). A round that would wait, throw or meet a failing call is no
step: the states reached are those of runs without an error.
-/

namespace SnakeSocks.Tunnel

open ByteLib CMem Frames
open Sio (RecvEv)
open NetLib (refuseRecv)

/-- The module's functions on this connection. -/
structure Module where
  clientEncode : ClientQuery → BinarySafeString
  clientDecode : BinarySafeString → ClientQuery
  serverEncode : ClientQuery → BinarySafeString
  serverDecode : BinarySafeString → ClientQuery

/-- An address as `BoostNetLib::resolveDomainOnce` gives it. -/
inductive IpAddress where
  | v4 (bytes : Vector UInt8 4)
  | v6 (bytes : Vector UInt8 16)

/-- What `quick_connect` is given. -/
abbrev Dest := String × UInt16

/-- Everything fixed for a connection. `resolve` is the resolver and `dial` is `quick_connect`, with their exceptions; `junk` and
`fuel` are those of `readall`. -/
structure Setup where
  module : Module
  /-- `templateQueryWithIp`. -/
  template : ClientQuery
  bindPort : UInt16
  resolve : Bytes → Except Halt IpAddress
  dial : Dest → Except Halt Unit
  junk : Junk
  fuel : Nat
  appIn : List RecvEv
  dstIn : List RecvEv

structure State where
  /-- What the next reads on the application's and the destination's socket find. -/
  appIn : List RecvEv
  dstIn : List RecvEv
  /-- The tunnel: bytes sent and not yet received. -/
  c2s : Bytes
  s2c : Bytes
  /-- The loop is still running. -/
  cliUp : Bool
  srvUp : Bool
  /-- The connection to the destination, by what it was made with. -/
  nextHopConn : Option Dest
  /-- History: all bytes `readall` took, all sends on the two sockets, all calls of `quick_connect`. -/
  appRead : Bytes
  dstRead : Bytes
  appOut : Bytes
  dstLog : List (Dest × Bytes)
  connects : List Dest

/-- The bytes written to destinations. -/
def State.dstOut (s : State) : Bytes := (s.dstLog.map Prod.snd).flatten

/-- One `read` of a script: a signal is an error here, `readall` does not retry. -/
def script : Reader (List RecvEv) where
  read evs n :=
    match evs with
    | [] => .error .failed
    | .eintr :: _ => .error .failed
    | .data bs :: evs => if bs.length ≤ n then .ok (bs, evs) else .ok (bs.take n, .data (bs.drop n) :: evs)
  le := by
    intro evs n bs evs' h
    split at h
    · cases h
    · cases h
    · split at h
      · cases h
        assumption
      · cases h
        simp

/-- `recvn_ex` on the tunnel: waits until `n` bytes are there. -/
def recvn (n : Nat) (tunnel : Bytes) : Except Halt (Bytes × Bytes) :=
  if n ≤ tunnel.length then .ok (tunnel.take n, tunnel.drop n) else .error .blocked

def recvLengthAndPacket (tunnel : Bytes) : Except Halt (Bytes × Bytes) := do
  let (n, tunnel) ← recvn 4 tunnel
  let length := beNat n
  if length > 64 * 1024 * 1024 then
    .error (.exn refuseRecv)
  else
    recvn length tunnel

def isDnsQuery (cq : ClientQuery) : Bool := cq.destinationIp.toList.all (· = 0)

/-- The C string behind the DNS head; it must end inside the payload's block. -/
def getDomainFromDnsQuery (cq : ClientQuery) : Except Halt Bytes :=
  if cq.payload.length.toNat ≤ 32 then .ok []
  else
    let domain := (cq.payload.str.getD []).drop 32
    if domain.contains 0 then .ok (cString domain) else .error (.fault .readOutside)

def ipArrayToStr (ip : Vector UInt8 16) : String :=
  let isV6 := (ip.toList.drop 4).any (· ≠ 0)
  String.intercalate (if isV6 then ":" else ".") ((ip.toList.take (if isV6 then 16 else 4)).map fun b => toString b.toNat)

def destOf (cq : ClientQuery) : Dest := (ipArrayToStr cq.destinationIp, cq.destinationPort)

/-- `thisResponse`: the resolved address over zeros. -/
def dnsResponse (cq : ClientQuery) : IpAddress → ClientQuery
  | .v4 bytes => ⟨ip16 bytes.toList, cq.destinationPort, .null false⟩
  | .v6 bytes => ⟨bytes, cq.destinationPort, .null false⟩

section
variable (P : Setup)

/-- `passData`, the application's socket is readable. -/
def clientApp (s : State) : Except Halt State := do
  let (branch, appIn) ← appReadable script P.junk P.fuel P.module.clientEncode P.template s.appIn
  match branch with
  | .close => return { s with appIn, cliUp := false }
  | .send taken sent => return { s with appIn, c2s := s.c2s ++ sent, appRead := s.appRead ++ taken }

/-- `passData`, the tunnel is readable: a length of 0 is taken for the end. -/
def clientHop (s : State) : Except Halt State := do
  let (binLen, s2c) ← recvn 4 s.s2c
  if beNat binLen = 0 then
    return { s with s2c, cliUp := false }
  else
    let (bridgeBuffer, s2c) ← recvn (beNat binLen) s2c
    let decodedDat := (P.module.clientDecode (.ofBlock bridgeBuffer)).payload
    return { s with s2c, appOut := s.appOut ++ decodedDat.bytes }

/-- `goto _close_conn` in the first branch skips the second. -/
def clientIter (app hop : Bool) (s : State) : Except Halt State := do
  let s ← (if app then clientApp P s else pure s)
  if hop && s.cliUp then clientHop P s else pure s

/-- `dealConnectionImpl`, the tunnel is readable. -/
def serverConn (s : State) : Except Halt State := do
  let (data, c2s) ← recvLengthAndPacket s.c2s
  let thisQuery := P.module.serverDecode (.ofBlock data)
  if isDnsQuery thisQuery then
    let domain ← getDomainFromDnsQuery thisQuery
    let nextHopIp ← P.resolve domain
    let sent ← sendLengthAndPacket (P.module.serverEncode (dnsResponse thisQuery nextHopIp))
    return { s with c2s, s2c := s.s2c ++ sent }
  else
    match s.nextHopConn with
    | none =>
      let dest := destOf thisQuery
      P.dial dest
      return { s with
        c2s, nextHopConn := some dest, connects := s.connects ++ [dest],
        dstLog := s.dstLog ++ [(dest, thisQuery.payload.bytes)] }
    | some dest => return { s with c2s, dstLog := s.dstLog ++ [(dest, thisQuery.payload.bytes)] }

/-- `dealConnectionImpl`, the destination's socket is readable. -/
def serverHop (s : State) : Except Halt State := do
  let (branch, dstIn) ← nextHopReadable script P.junk P.fuel P.module.serverEncode P.bindPort s.dstIn
  match branch with
  | .close => return { s with dstIn, srvUp := false }
  | .send taken sent => return { s with dstIn, s2c := s.s2c ++ sent, dstRead := s.dstRead ++ taken }

/-- A connection made in this round is not in `rset` yet. -/
def serverIter (conn hop : Bool) (s : State) : Except Halt State := do
  let ready := hop && s.nextHopConn.isSome
  let s ← (if conn then serverConn P s else pure s)
  if ready then serverHop P s else pure s

/-- One round of one loop, by the sockets `select` reports. -/
inductive Act where
  | client (app hop : Bool)
  | server (conn hop : Bool)
deriving DecidableEq

def round (s : State) : Act → Except Halt State
  | .client app hop => if s.cliUp then clientIter P app hop s else .error .blocked
  | .server conn hop => if s.srvUp then serverIter P conn hop s else .error .blocked

def State.init : State where
  appIn := P.appIn
  dstIn := P.dstIn
  c2s := []
  s2c := []
  cliUp := true
  srvUp := true
  nextHopConn := none
  appRead := []
  dstRead := []
  appOut := []
  dstLog := []
  connects := []

def relay : Lts.System State Act where
  init := .init P
  enabled s a := (round P s a).isOk = true
  next s a :=
    match round P s a with
    | .ok t => t
    | .error _ => s

instance (s : State) (a : Act) : Decidable ((relay P).enabled s a) :=
  inferInstanceAs (Decidable ((round P s a).isOk = true))

end

end SnakeSocks.Tunnel
