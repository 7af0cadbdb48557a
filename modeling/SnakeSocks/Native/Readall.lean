import SnakeSocks.Lib.Frames
import SnakeSocks.Module.Packet
import SnakeSocks.Native.Format

/-!
# `readall` and the two branches that use it

| here | there |
| --- | --- |
| `readall`             | `fdIO::readall` (`sio.hpp:330`) and `sockIO::recvall` (`:550`), one text with `read` and `recv` |
| `lengthAndPacket`, `sendLengthAndPacket` | `htonl` and the two sends (`socks5.cc:324-331`), `NetLib::send_length_and_packet` (`NetLib.hpp:31`) |
| `clientEncode`        | `client_impl::encode` (`module.cc:22`) |
| `appReadable`         | the first branch of `passData` (`socks5.cc:310-332`) |
| `nextHopReadable`     | the second branch of `dealConnectionImpl` (`tunnel.cc:244-255`) |

`readall` takes half a buffer, and when that half is full it reads once more before it looks whether anything is
left. What a `read` does is a parameter: a stream that can block here, a script of arbitrary splits in
`Native/Relay.lean`.
-/

namespace SnakeSocks.Tunnel

open ByteLib CMem Frames
open NetLib (refuseSend)

/-! ## Reading -/

/-- Why a piece of native code does not go on. -/
inductive Halt where
  /-- It waits in a `read` or `recv` on an empty socket that is still open. -/
  | blocked
  /-- The return value -1. -/
  | failed
  | fault (f : Fault)
  | exn (what : String)
  | outOfFuel
deriving DecidableEq

/-- `read(fd, buf, n)`: at most `n` bytes, none at the end of the stream. -/
structure Reader (σ : Type) where
  read : σ → Nat → Except Halt (Bytes × σ)
  le : ∀ {s n bs s'}, read s n = .ok (bs, s') → bs.length ≤ n

def liftMem {α : Type} (x : Except Fault α) : Except Halt α := x.mapError .fault

section
variable {σ : Type} (R : Reader σ) (junk : Junk)

/-- `realloc(blk, n)`. -/
def realloc (junk : Nat → UInt8) (blk : Bytes) (n : Nat) : Bytes := blk.take n ++ (malloc junk n).drop blk.length

/-- The loop of `readall`, entered with half of `current` filled. It gives the buffer and the count. -/
def readallLoop : Nat → σ → Bytes → Nat → Except Halt (Bytes × Nat × σ)
  | 0, _, _, _ => .error .outOfFuel
  | fuel + 1, s, vptr, current => do
    let (bs, s) ← R.read s (current / 2)
    let vptr ← liftMem (store vptr (current / 2) bs)
    if bs.length < current then
      return (vptr, bs.length + current / 2, s)
    else
      readallLoop fuel s (realloc (junk fuel) vptr (current * 2)) (current * 2)

/-- `readall(fd, &ptr, initSize)` with `ptr` null; `fuel + 1` rounds of the loop. -/
def readall (fuel initSize : Nat) (s : σ) : Except Halt (Bytes × Nat × σ) := do
  let current := if initSize ≠ 0 then initSize else 1024
  let vptr := malloc (junk (fuel + 1)) current
  let (bs, s) ← R.read s (current / 2)
  let vptr ← liftMem (store vptr 0 bs)
  if bs.length < current / 2 then
    return (vptr, bs.length, s)
  else
    readallLoop R junk (fuel + 1) s vptr current

/-- What both callers make of buffer and count. -/
def readallStr (fuel : Nat) (s : σ) : Except Halt (Bytes × σ) := do
  let (vptr, ret, s) ← readall R junk fuel 0 s
  return (vptr.take ret, s)

/-- The same without the buffer: a second `read` whenever the first was full. -/
def readHalves (s : σ) : Except Halt (Bytes × σ) := do
  let (bs, s) ← R.read s 512
  if bs.length < 512 then
    return (bs, s)
  else
    let (bs', s) ← R.read s 512
    return (bs ++ bs', s)

/-- `readall` never stores outside its buffer and never goes round its loop: one round of fuel is enough. -/
theorem readallStr_eq (fuel : Nat) (s : σ) : readallStr R junk fuel s = readHalves R s := by
  unfold readallStr readall readHalves
  cases h1 : R.read s 512 with
  | error e => simp [h1]
  | ok r1 =>
    obtain ⟨bs, s1⟩ := r1
    have hle := R.le h1
    have hst : store (malloc (junk (fuel + 1)) 1024) 0 bs = .ok (splice (malloc (junk (fuel + 1)) 1024) 0 bs) :=
      store_ok (by simp; omega)
    by_cases hlt : bs.length < 512
    · simp [h1, hst, liftMem, Except.mapError, hlt, splice_zero]
    · cases h2 : R.read s1 512 with
      | error e => simp [h1, hst, liftMem, Except.mapError, hlt, readallLoop, h2]
      | ok r2 =>
        obtain ⟨bs', s2⟩ := r2
        have hle' := R.le h2
        have hbs : bs.length = 512 := by omega
        -- the second half fills the rest of the buffer
        obtain ⟨rest, hrest⟩ : ∃ rest, splice (malloc (junk (fuel + 1)) 1024) 0 bs = bs ++ rest ∧ rest.length = 512 :=
          ⟨_, splice_zero _ _, by simp [hbs]⟩
        have hst2 : store (bs ++ rest) 512 bs' = .ok (bs ++ (bs' ++ rest.drop bs'.length)) := by
          rw [store_ok (by simp; omega), splice_seam hbs]
        have hlt2 : bs'.length < 1024 := by omega
        have htake : (bs ++ (bs' ++ rest.drop bs'.length)).take (bs'.length + 512) = bs ++ bs' := by
          rw [← List.append_assoc, List.take_left' (by simp; omega)]
        simp only [ne_eq, not_true_eq_false, if_false, Nat.reduceDiv, h1, ok_bind, hst, hrest.1, liftMem, Except.mapError,
          hlt, readallLoop, h2, hst2, hlt2, if_true, pure_eq_ok, htake]

end

/-! ## The branches -/

/-- The text of an exception where the call returned -1. `sysdie` puts the place and `strerror` before it, the `_ex`
functions put `strerror` behind it; both are left out. -/
def orDie {α : Type} (what : String) : Except Halt α → Except Halt α
  | .error .failed => .error (.exn what)
  | .error e => .error e
  | .ok a => .ok a

/-- What goes over the wire for a packet: `htonl` of its length, then its bytes. -/
def lengthAndPacket (dat : BinarySafeString) : Bytes := beBytes 4 dat.length.toNat ++ dat.bytes

/-- `send_length_and_packet`: the bytes it sends. -/
def sendLengthAndPacket (dat : BinarySafeString) : Except Halt Bytes :=
  if dat.length.toNat > 64 * 1024 * 1024 then
    .error (.exn refuseSend)
  else
    .ok (lengthAndPacket dat)

/-- `client_impl::encode`: an empty payload leaves the template's own. -/
def clientEncode (encode : ClientQuery → BinarySafeString) (payload : BinarySafeString) (addrTemplate : ClientQuery) :
    BinarySafeString :=
  encode (if payload.length ≠ 0 then { addrTemplate with payload } else addrTemplate)

/-- The query `dealConnectionImpl` makes of a chunk. -/
def chunkQuery (bindPort : UInt16) (chunk : Bytes) : ClientQuery := ⟨Vector.replicate 16 0, bindPort, .ofBlock chunk⟩

/-- A branch ends the loop, or sends bytes into the tunnel for the bytes it took and goes on. -/
inductive Branch where
  | close
  | send (taken sent : Bytes)
deriving DecidableEq

section
variable {σ : Type} (R : Reader σ) (junk : Junk) (fuel : Nat)

/-- `passData`, the application's socket is readable. -/
def appReadable (encode : ClientQuery → BinarySafeString) (template : ClientQuery) (s : σ) :
    Except Halt (Branch × σ) := do
  let (bridgeBuffer, s) ← orDie "read failed" (readallStr R junk fuel s)
  if bridgeBuffer.length = 0 then
    return (.close, s)
  else
    let encodedDat := clientEncode encode (.ofBlock bridgeBuffer) template
    return (.send bridgeBuffer (lengthAndPacket encodedDat), s)

/-- `dealConnectionImpl`, the destination's socket is readable. -/
def nextHopReadable (encode : ClientQuery → BinarySafeString) (bindPort : UInt16) (s : σ) :
    Except Halt (Branch × σ) := do
  let (freedomData, s) ← orDie "recvall failed." (readallStr R junk fuel s)
  if freedomData.length = 0 then
    return (.close, s)
  else
    let sent ← sendLengthAndPacket (encode (chunkQuery bindPort freedomData))
    return (.send freedomData sent, s)

end

/-! ## On a blocking socket -/

/-- Bytes that have arrived, and whether more may come. -/
structure Stream where
  avail : Bytes
  isOpen : Bool
deriving DecidableEq

/-- A read takes what there is, up to `n` bytes, and waits where there is nothing and the peer has not closed. -/
def Stream.reader : Reader Stream where
  read s n := if s.avail = [] ∧ s.isOpen = true then .error .blocked else .ok (s.avail.take n, ⟨s.avail.drop n, s.isOpen⟩)
  le := by
    intro s n bs s' h
    split at h
    · cases h
    · cases h
      simp

/-- The branch comes to its end, and the bytes it took from the socket went on as one packet. -/
def Relays (packet : Bytes → BinarySafeString) (s : Stream) (r : Except Halt (Branch × Stream)) : Prop :=
  ∃ taken rest, taken ≠ [] ∧ taken ++ rest = s.avail ∧
    r = .ok (.send taken (lengthAndPacket (packet taken)), ⟨rest, s.isOpen⟩)

section
variable {s : Stream}

theorem read_avail (h : s.avail ≠ []) (n : Nat) :
    Stream.reader.read s n = .ok (s.avail.take n, ⟨s.avail.drop n, s.isOpen⟩) := by
  simp [Stream.reader, h]

/-- With exactly half a buffer there `readall` reads again and waits. -/
theorem readHalves_blocked (h : s.avail.length = 512) (ho : s.isOpen = true) :
    readHalves Stream.reader s = .error .blocked := by
  have hne : s.avail ≠ [] := by
    intro h0
    simp [h0] at h
  have h3 : ¬(s.avail.take 512).length < 512 := by simp; omega
  have hread : Stream.reader.read ⟨s.avail.drop 512, s.isOpen⟩ 512 = .error .blocked :=
    if_pos ⟨List.drop_of_length_le (by omega), ho⟩
  rw [readHalves, read_avail hne, ok_bind]
  simp only [h3, if_false, hread, error_bind]

/-- Otherwise it takes what there is, up to a whole buffer. -/
theorem readHalves_takes (hne : s.avail ≠ []) (h : s.avail.length ≠ 512 ∨ s.isOpen = false) :
    readHalves Stream.reader s = .ok (s.avail.take 1024, ⟨s.avail.drop 1024, s.isOpen⟩) := by
  rw [readHalves, read_avail hne, ok_bind]
  by_cases hlt : s.avail.length < 512
  · have h1 : s.avail.take 512 = s.avail.take 1024 := by
      rw [List.take_of_length_le (by omega), List.take_of_length_le (by omega)]
    have h2 : s.avail.drop 512 = s.avail.drop 1024 := by
      rw [List.drop_of_length_le (by omega), List.drop_of_length_le (by omega)]
    have h3 : (s.avail.take 512).length < 512 := by simp; omega
    simp only [h3, if_true, pure_eq_ok]
    rw [h1, h2]
  · have h3 : ¬(s.avail.take 512).length < 512 := by simp; omega
    have hb : ¬((s.avail.drop 512 = []) ∧ s.isOpen = true) := by
      rintro ⟨hd, ho⟩
      rcases h with h | h
      · have := List.drop_eq_nil_iff.1 hd
        omega
      · simp [ho] at h
    have hread : Stream.reader.read ⟨s.avail.drop 512, s.isOpen⟩ 512 =
        .ok ((s.avail.drop 512).take 512, ⟨(s.avail.drop 512).drop 512, s.isOpen⟩) := if_neg hb
    have htake : s.avail.take 512 ++ (s.avail.drop 512).take 512 = s.avail.take 1024 := by
      rw [← List.take_add]
    simp only [h3, if_false, hread, ok_bind, pure_eq_ok, htake, List.drop_drop]

section
variable (junk : Junk) (fuel : Nat) (encode : ClientQuery → BinarySafeString)

/-- The application's branch. -/
theorem appReadable_relays_iff (template : ClientQuery) (hne : s.avail ≠ []) :
    Relays (fun taken => clientEncode encode (.ofBlock taken) template) s
      (appReadable Stream.reader junk fuel encode template s) ↔ s.avail.length ≠ 512 ∨ s.isOpen = false := by
  rw [appReadable, readallStr_eq]
  constructor
  · rintro ⟨taken, rest, -, -, h⟩
    by_contra hc
    simp only [ne_eq, not_or, not_not, Bool.not_eq_false] at hc
    rw [readHalves_blocked hc.1 hc.2] at h
    cases h
  · intro hc
    have hlen : ¬(s.avail.take 1024).length = 0 := by simp [hne]
    refine ⟨s.avail.take 1024, s.avail.drop 1024, by simp [hne], List.take_append_drop _ _, ?_⟩
    rw [readHalves_takes hne hc]
    simp only [orDie, ok_bind, if_neg hlen, pure_eq_ok]

/-- The destination's branch; here a packet of more than 64 MiB is refused. -/
theorem nextHopReadable_relays_iff (bindPort : UInt16) (hne : s.avail ≠ []) :
    Relays (fun taken => encode (chunkQuery bindPort taken)) s
      (nextHopReadable Stream.reader junk fuel encode bindPort s) ↔
    (s.avail.length ≠ 512 ∨ s.isOpen = false) ∧
      (encode (chunkQuery bindPort (s.avail.take 1024))).length.toNat ≤ 64 * 1024 * 1024 := by
  rw [nextHopReadable, readallStr_eq]
  by_cases hc : s.avail.length ≠ 512 ∨ s.isOpen = false
  · have hlen : ¬(s.avail.take 1024).length = 0 := by simp [hne]
    rw [readHalves_takes hne hc]
    simp only [orDie, ok_bind, if_neg hlen, hc, true_and]
    constructor
    · rintro ⟨taken, rest, -, -, h⟩
      by_contra hbig
      rw [sendLengthAndPacket, if_pos (by omega)] at h
      cases h
    · intro hsmall
      refine ⟨s.avail.take 1024, s.avail.drop 1024, by simp [hne], List.take_append_drop _ _, ?_⟩
      rw [sendLengthAndPacket, if_neg (by omega)]
      rfl
  · simp only [hc, false_and, iff_false]
    simp only [ne_eq, not_or, not_not, Bool.not_eq_false] at hc
    rintro ⟨taken, rest, -, -, h⟩
    rw [readHalves_blocked hc.1 hc.2] at h
    cases h

/-- For any module and any number of waiting bytes: a branch relays them without a read that waits exactly when they
are not half a buffer, or the peer has closed; on the server the module's packet must not exceed 64 MiB. -/
theorem branches_relay_iff (template : ClientQuery) (bindPort : UInt16) (hne : s.avail ≠ []) :
    (Relays (fun taken => clientEncode encode (.ofBlock taken) template) s
        (appReadable Stream.reader junk fuel encode template s) ↔ s.avail.length ≠ 512 ∨ s.isOpen = false) ∧
    (Relays (fun taken => encode (chunkQuery bindPort taken)) s
        (nextHopReadable Stream.reader junk fuel encode bindPort s) ↔
      (s.avail.length ≠ 512 ∨ s.isOpen = false) ∧
        (encode (chunkQuery bindPort (s.avail.take 1024))).length.toNat ≤ 64 * 1024 * 1024) :=
  ⟨appReadable_relays_iff junk fuel encode template hne, nextHopReadable_relays_iff junk fuel encode bindPort hne⟩

end

end

/-- A module that sends the payload as it is. -/
def bareEncode (q : ClientQuery) : BinarySafeString := q.payload

def bareTemplate : ClientQuery := ⟨Vector.replicate 16 1, 80, .null false⟩

theorem branches_relay_one_byte : Relays (fun taken => clientEncode bareEncode (.ofBlock taken) bareTemplate) ⟨[7], true⟩
    (appReadable Stream.reader (fun _ _ => 0) 0 bareEncode bareTemplate ⟨[7], true⟩) ∧
    Relays (fun taken => bareEncode (chunkQuery 80 taken)) ⟨[7], true⟩
      (nextHopReadable Stream.reader (fun _ _ => 0) 0 bareEncode 80 ⟨[7], true⟩) := by
  obtain ⟨happ, hdst⟩ := branches_relay_iff (fun _ _ => 0) 0 bareEncode bareTemplate 80 (s := ⟨[7], true⟩) (by decide)
  exact ⟨happ.2 (.inl (by decide)), hdst.2 ⟨.inl (by decide), by decide⟩⟩

/-- Half a buffer, from a peer that waits for the answer. -/
def halfBuffer : Stream := ⟨List.replicate 512 0, true⟩

theorem half_buffer_blocks :
    ¬Relays (fun taken => clientEncode bareEncode (.ofBlock taken) bareTemplate) halfBuffer
      (appReadable Stream.reader (fun _ _ => 0) 0 bareEncode bareTemplate halfBuffer) ∧
    ¬Relays (fun taken => bareEncode (chunkQuery 80 taken)) halfBuffer
      (nextHopReadable Stream.reader (fun _ _ => 0) 0 bareEncode 80 halfBuffer) := by
  have hlen : halfBuffer.avail.length = 512 := List.length_replicate
  have hne : halfBuffer.avail ≠ [] := by
    intro h
    simp [h] at hlen
  have hopen : halfBuffer.isOpen = true := rfl
  have hno : ¬(halfBuffer.avail.length ≠ 512 ∨ halfBuffer.isOpen = false) := by simp [hlen, hopen]
  rw [appReadable_relays_iff _ _ _ _ hne, nextHopReadable_relays_iff _ _ _ _ hne]
  exact ⟨hno, fun h => hno h.1⟩

end SnakeSocks.Tunnel
