import SnakeSocks.Native.Sio

/-!
# The SOCKS5 front end of `skcli` (`native/src/socks5.cc`)

| here | there |
| --- | --- |
| `AddrInfo`               | `Socks5Connection::addr_info` (`socks5.hpp:51`), the fields the front end sets |
| `unpackConnectionPacket` | `socks5.cc:157` |
| `methodLoop`             | the search for method 0 (`socks5.cc:211-219`) |
| `handshakePkgs`          | `socks5.cc:201`, over `char headBuf[258]` |
| `addrLength`             | the `switch (buf[3])` (`socks5.cc:232-246`) |
| `connectPkgs`            | `socks5.cc:226`, over `char buf[263]` |
| `frontEnd`               | the first two calls of `launch` (`socks5.hpp:38-39`) |

`char` is signed, so a length byte of 128 and more becomes a `size_t` near `2 ^ 64`. `front_end_in_bounds_iff`
says for which byte streams that matters.
-/

namespace SnakeSocks.Socks5

open ByteLib CMem Sio
open Effects (bind_of_ok bind_of_error of_bind_eq_ok)

/-! ## The code -/

inductive AddrT where
  | null
  | ipv4
  | ipv6
  | domain
deriving DecidableEq

structure AddrInfo where
  type : AddrT
  data : Bytes
  port : UInt16
deriving DecidableEq

/-- `ntohs` of the two bytes at `off`. -/
def portAt (pkg : Cells) (off : Nat) : Prog UInt16 := do
  let bs ← liftMem (loadBytes pkg off 2)
  return UInt16.ofNat (beNat bs)

/-- Returns `CMD`, `ATYP` and the address. -/
def unpackConnectionPacket (junk : Nat → UInt8) (pkgStr : Cells) : Prog (UInt8 × UInt8 × AddrInfo) := do
  let ver ← liftMem (byteAt pkgStr 0)
  if ver ≠ 5 then die "Broken package. Incorrect ver." else
  let cmd ← liftMem (byteAt pkgStr 1)
  let atyp ← liftMem (byteAt pkgStr 3)
  if atyp = 1 then
    let bArr ← liftMem (loadBytes pkgStr 4 4)
    let targetPort ← portAt pkgStr 8
    return (cmd, atyp, ⟨.ipv4, bArr, targetPort⟩)
  else if atyp = 4 then
    let bArr ← liftMem (loadBytes pkgStr 4 16)
    let targetPort ← portAt pkgStr 20
    return (cmd, atyp, ⟨.ipv6, bArr, targetPort⟩)
  else if atyp = 3 then
    let len ← liftMem (byteAt pkgStr 4)
    let addrlen := sizeT (schar len)
    -- the index of the port is computed in `size_t`
    let targetPort ← portAt pkgStr ((5 + addrlen) % 2 ^ 64)
    let name ← liftMem (loadBytes pkgStr 5 addrlen)
    let sbuffer ← liftMem (store (malloc junk ((addrlen + 1) % 2 ^ 64)) 0 name)
    let sbuffer ← liftMem (store sbuffer addrlen [0])
    return (cmd, atyp, ⟨.domain, cString sbuffer, targetPort⟩)
  else die "Broken package.Invalid ATYP"

/-- Is one of the `n` bytes at `off` zero? -/
def methodLoop (headBuf : Cells) : Nat → Nat → Except Fault Bool
  | _, 0 => .ok false
  | off, n + 1 => do
    let m ← byteAt headBuf off
    if m = 0 then return true else methodLoop headBuf (off + 1) n

/-- Receive the methods, look for method 0 and reply (`socks5.cc:209-223`). -/
def answerMethods (headBuf : Cells) (methodSize : Nat) : Prog Unit := do
  let headBuf ← recvnEx headBuf 2 methodSize
  let methodOk ← liftMem (methodLoop headBuf 2 methodSize)
  let headBuf ← liftMem (store headBuf 0 [some 5])
  let headBuf ← liftMem (store headBuf 1 [some (if methodOk then 0 else 255)])
  let reply ← liftMem (loadBytes headBuf 0 2)
  sendnEx reply

def handshakePkgs : Prog Unit := do
  let headBuf ← recvnEx (filled [] 258) 0 2
  let ver ← liftMem (byteAt headBuf 0)
  if ver ≠ 5 then die "Broken protocol. (Incorrect protocol number)" else
  let len ← liftMem (byteAt headBuf 1)
  answerMethods headBuf (sizeT (schar len))

/-- The bytes still to come before the port, by `ATYP`. -/
def addrLength (buf : Cells) : Prog Nat := do
  let atyp ← liftMem (byteAt buf 3)
  if atyp = 1 then return 4
  else if atyp = 3 then
    let len ← liftMem (byteAt buf 4)
    return (sizeT (schar len) + 1) % 2 ^ 64
  else if atyp = 4 then return 16
  else die "Wrong ATYP in connect packet."

/-- Unpack the received request and send it back as the reply (`socks5.cc:249-262`). -/
def answerRequest (junk : Nat → UInt8) (buf : Cells) (addrlen : Nat) : Prog AddrInfo := do
  let (cmd, _, remoteInfo) ← unpackConnectionPacket junk buf
  if cmd ≠ 1 then die ("Socks5 request can not be processed.(CMD=" ++ toString (schar cmd) ++ ")") else
  let buf ← liftMem (store buf 1 [some 0])
  let reply ← liftMem (loadBytes buf 0 ((addrlen + 6) % 2 ^ 64))
  sendnEx reply
  return remoteInfo

def connectPkgs (junk : Nat → UInt8) : Prog AddrInfo := do
  let buf ← recvnEx (filled [] 263) 0 5
  let addrlen ← addrLength buf
  let buf ← recvnEx buf 5 ((addrlen + 1) % 2 ^ 64)
  answerRequest junk buf addrlen

def frontEnd (junk : Nat → UInt8) : Prog AddrInfo := do
  handshakePkgs
  connectPkgs junk

/-! ## The greeting -/

/-- VER is 5, the method count is below 128 and all methods arrive. -/
def GreetingComplete (d : Bytes) : Prop :=
  d.getD 0 0 = 5 ∧ (d.getD 1 0).toNat < 128 ∧ 2 + (d.getD 1 0).toNat ≤ d.length

/-- VER is 5, the method count is 128 or more, and more bytes come than `headBuf` holds. -/
def GreetingOverruns (d : Bytes) : Prop :=
  d.getD 0 0 = 5 ∧ 128 ≤ (d.getD 1 0).toNat ∧ 258 < d.length

instance (d : Bytes) : Decidable (GreetingComplete d) := inferInstanceAs (Decidable (_ ∧ _ ∧ _))

instance (d : Bytes) : Decidable (GreetingOverruns d) := inferInstanceAs (Decidable (_ ∧ _ ∧ _))

theorem methodLoop_filled (bs : Bytes) (k n off : Nat) (h : off + n ≤ bs.length) :
    methodLoop (filled bs k) off n = .ok (decide (0 ∈ slice bs off n)) := by
  induction n generalizing off with
  | zero => simp [methodLoop]
  | succ n ih =>
    have ho : off < bs.length := by omega
    have hb : byteAt (filled bs k) off = .ok (bs.getD off 0) := byteAt_filled ho
    have hs : slice bs off (n + 1) = bs.getD off 0 :: slice bs (off + 1) n := by
      have hg : bs.getD off 0 = bs[off] := by simp [List.getD_eq_getElem?_getD, ho]
      rw [slice, List.drop_eq_getElem_cons ho, List.take_succ_cons, hg, slice]
    rw [methodLoop, hb, ok_bind, hs]
    generalize bs.getD off 0 = m
    by_cases hz : m = 0
    · simp [hz]
    · have hz' : ¬(0 = m) := fun h => hz h.symm
      rw [if_neg hz, ih (off + 1) (by omega)]
      simp only [List.mem_cons, hz', false_or]

section
variable {s : Sock} {d : Bytes}

theorem getD_take {i n : Nat} (h : i < n) : (d.take n).getD i 0 = d.getD i 0 := by
  simp [List.getD_eq_getElem?_getD, h]

/-- The first two bytes of the greeting are read before anything depends on the method count. -/
theorem handshakePkgs_head (hd : delivered s.inp = d) (hl : 2 ≤ d.length) (hv : d.getD 0 0 = 5) :
    ∃ s₀, delivered s₀.inp = d.drop 2 ∧ s₀.outp = s.outp ∧ s₀.sent = s.sent ∧
      handshakePkgs s = answerMethods (filled (d.take 2) 256) (sizeT (schar (d.getD 1 0))) s₀ := by
  obtain ⟨s₀, e₀, d₀, o₀, t₀⟩ := recvnEx_ok [] 258 2 hd hl (by omega)
  have hlen : (d.take 2).length = 2 := by simpa using hl
  have b0 : byteAt (filled (d.take 2) 256) 0 = .ok (d.getD 0 0) := by
    rw [byteAt_filled (by omega), getD_take (by omega)]
  have b1 : byteAt (filled (d.take 2) 256) 1 = .ok (d.getD 1 0) := by
    rw [byteAt_filled (by omega), getD_take (by omega)]
  refine ⟨s₀, d₀, o₀, t₀, ?_⟩
  rw [List.length_nil, List.nil_append] at e₀
  rw [handshakePkgs, bind_of_ok e₀, liftMem_bind_ok b0, if_neg (by simpa using hv)]
  exact liftMem_bind_ok b1

/-- The reply is written over the first two bytes. -/
theorem slice_reply (hl : 2 ≤ d.length) (a b : UInt8) : slice ((d.set 0 a).set 1 b) 0 2 = [a, b] := by
  rcases d with _ | ⟨x, _ | ⟨y, t⟩⟩
  · simp at hl
  · simp at hl
  · simp [slice]

/-- A greeting that fits is answered with its method and consumed, byte for byte. -/
theorem handshakePkgs_complete (hd : delivered s.inp = d) (h : GreetingComplete d) :
    ∃ s₁, delivered s₁.inp = d.drop (2 + (d.getD 1 0).toNat) ∧ s₁.outp = s.outp ∧ s₁.sent = s.sent ∧
      handshakePkgs s = sendnEx [5, if 0 ∈ slice d 2 (d.getD 1 0).toNat then 0 else 255] s₁ := by
  obtain ⟨hv, hn, hl⟩ := h
  obtain ⟨s₀, d₀, o₀, t₀, e₀⟩ := handshakePkgs_head hd (by omega) hv
  rw [sizeT_schar, if_pos hn] at e₀
  generalize (d.getD 1 0).toNat = n at *
  have hlen : (d.take 2).length = 2 := by simp; omega
  obtain ⟨s₁, e₁, d₁, o₁, t₁⟩ := recvnEx_ok (d.take 2) 256 n d₀ (by simp; omega) (by omega)
  have hbs : d.take 2 ++ (d.drop 2).take n = d.take (2 + n) := (List.take_add).symm
  have hl2 : (d.take (2 + n)).length = 2 + n := by simp; omega
  rw [hlen, hbs] at e₁
  have hm := methodLoop_filled (d.take (2 + n)) (256 - n) n 2 (by omega)
  have hsl : slice (d.take (2 + n)) 2 n = slice d 2 n := by
    simp [slice, List.drop_take, List.take_take]
  refine ⟨s₁, by simpa using d₁, o₁.trans o₀, t₁.trans t₀, ?_⟩
  rw [e₀, answerMethods, bind_of_ok e₁, liftMem_bind_ok hm,
    liftMem_bind_ok (store_filled (by omega)), liftMem_bind_ok (store_filled (by simp; omega)),
    liftMem_bind_ok (loadBytes_filled (by simp; omega)), hsl, slice_reply (by omega)]
  simp only [decide_eq_true_eq]

/-- A count of 128 and more asks `recvn` for nearly `2 ^ 64` bytes: the stream decides where it stops. -/
theorem handshakePkgs_overruns (hd : delivered s.inp = d) (h : GreetingOverruns d) :
    ∃ s', handshakePkgs s = .error (.fault .writeOutside) s' := by
  obtain ⟨hv, hn, hl⟩ := h
  obtain ⟨s₀, d₀, -, -, e₀⟩ := handshakePkgs_head hd (by omega) hv
  rw [sizeT_schar, if_neg (by omega)] at e₀
  have hlen : (d.take 2).length = 2 := by simp; omega
  obtain ⟨s', e'⟩ := recvnEx_overrun (d.take 2) 256 (2 ^ 64 - 256 + (d.getD 1 0).toNat) d₀ (by simp; omega) (by omega)
  rw [hlen] at e'
  exact ⟨s', by rw [e₀, answerMethods, bind_of_error e']⟩

/-- Every other greeting ends in an exception before anything is sent. -/
theorem handshakePkgs_rejects (hd : delivered s.inp = d) (hc : ¬GreetingComplete d) (ho : ¬GreetingOverruns d) :
    ∃ what s', handshakePkgs s = .error (.exn what) s' ∧ what ≠ "sendn failed." := by
  by_cases hl : 2 ≤ d.length
  swap
  · obtain ⟨s', e'⟩ := recvnEx_eof [] 258 2 hd (by omega) (by omega)
    exact ⟨_, s', by rw [handshakePkgs]; exact bind_of_error e', by decide⟩
  by_cases hv : d.getD 0 0 = 5
  swap
  · obtain ⟨s₀, e₀, -, -, -⟩ := recvnEx_ok [] 258 2 hd hl (by omega)
    have hlen : (d.take 2).length = 2 := by simpa using hl
    have b0 : byteAt (filled (d.take 2) 256) 0 = .ok (d.getD 0 0) := by
      rw [byteAt_filled (by omega), getD_take (by omega)]
    rw [List.length_nil, List.nil_append] at e₀
    exact ⟨_, s₀, by rw [handshakePkgs, bind_of_ok e₀, liftMem_bind_ok b0, if_pos hv]; rfl, by decide⟩
  obtain ⟨s₀, d₀, -, -, e₀⟩ := handshakePkgs_head hd hl hv
  have hlen : (d.take 2).length = 2 := by simp; omega
  have hshort : d.length - 2 < sizeT (schar (d.getD 1 0)) ∧ d.length - 2 ≤ 256 := by
    rw [sizeT_schar]
    simp only [GreetingComplete, GreetingOverruns, hv, true_and] at hc ho
    split <;> omega
  obtain ⟨s', e'⟩ := recvnEx_eof (d.take 2) 256 (sizeT (schar (d.getD 1 0))) d₀ (by simpa using hshort.1)
    (by simpa using hshort.2)
  rw [hlen] at e'
  exact ⟨_, s', by rw [e₀, answerMethods, bind_of_error e'], by decide⟩

end

/-! ## The request -/

/-- The `addrlen` of `connect_pkgs`, when `ATYP` is one it knows. -/
def addrlenOf (t : Bytes) : Option Nat :=
  if t.getD 3 0 = 1 then some 4
  else if t.getD 3 0 = 3 then some ((sizeT (schar (t.getD 4 0)) + 1) % 2 ^ 64)
  else if t.getD 3 0 = 4 then some 16
  else none

/-- Domain lengths that leave the buffers: 128 to 253 make `recvn` run on, 254 and 255 make the receive
short and the copy of the name run on. -/
def RequestOverruns (t : Bytes) : Prop :=
  t.getD 3 0 = 3 ∧
    ((128 ≤ (t.getD 4 0).toNat ∧ (t.getD 4 0).toNat ≤ 253 ∧ 263 < t.length) ∨
      ((t.getD 4 0).toNat = 254 ∧ t.getD 0 0 = 5 ∧ 5 ≤ t.length) ∨
      ((t.getD 4 0).toNat = 255 ∧ t.getD 0 0 = 5 ∧ 6 ≤ t.length))

instance (t : Bytes) : Decidable (RequestOverruns t) := inferInstanceAs (Decidable (_ ∧ (_ ∨ _ ∨ _)))

section
variable {s : Sock} {t bs : Bytes} {k : Nat} {junk : Nat → UInt8}

theorem addrLength_filled (h : 5 ≤ bs.length) (s : Sock) :
    addrLength (filled bs k) s = match addrlenOf bs with
      | some n => .ok n s
      | none => .error (.exn "Wrong ATYP in connect packet.") s := by
  rw [addrLength, liftMem_bind_ok (byteAt_filled (by omega)), addrlenOf]
  split
  · rfl
  · split
    · rw [liftMem_bind_ok (byteAt_filled (by omega))]
      rfl
    · split <;> rfl

theorem addrlenOf_take (n : Nat) (h : 5 ≤ n) : addrlenOf (t.take n) = addrlenOf t := by
  rw [addrlenOf, addrlenOf, getD_take (by omega), getD_take (by omega)]

/-- The total length of the requests `connect_pkgs` reads as meant. -/
def requestLen (t : Bytes) : Option Nat :=
  if t.getD 3 0 = 1 then some 10
  else if t.getD 3 0 = 4 then some 22
  else if t.getD 3 0 = 3 ∧ (t.getD 4 0).toNat < 128 then some (7 + (t.getD 4 0).toNat)
  else none

def netPort (bs : Bytes) : UInt16 := UInt16.ofNat (beNat bs)

/-- The address a request of `requestLen` carries. -/
def addrOf (t : Bytes) : AddrInfo :=
  if t.getD 3 0 = 1 then ⟨.ipv4, slice t 4 4, netPort (slice t 8 2)⟩
  else if t.getD 3 0 = 4 then ⟨.ipv6, slice t 4 16, netPort (slice t 20 2)⟩
  else
    let n := (t.getD 4 0).toNat
    ⟨.domain, cString (slice t 5 n), netPort (slice t (5 + n) 2)⟩

theorem portAt_filled {off : Nat} (h : off + 2 ≤ bs.length) :
    portAt (filled bs k) off s = .ok (netPort (slice bs off 2)) s := by
  rw [portAt, liftMem_bind_ok (loadBytes_filled h)]
  rfl

/-- The name is copied into `addrlen + 1` fresh bytes and terminated there. -/
theorem store_name {name : Bytes} {n : Nat} (h : name.length = n) :
    ∃ sbuffer, store (malloc junk (n + 1)) 0 name = .ok sbuffer ∧ store sbuffer n [0] = .ok (name ++ [0]) := by
  subst h
  refine ⟨_, store_ok (by simp), ?_⟩
  have hl : (splice (malloc junk (name.length + 1)) 0 name).length = name.length + 1 := by
    rw [length_splice (by simp), length_malloc]
  rw [store_ok (by simp [hl])]
  have h0 : 0 + name.length = name.length := by omega
  rw [← h0, splice_splice (by omega), splice_zero]
  simp

theorem cString_append_zero (bs : Bytes) : cString (bs ++ [0]) = cString bs := by
  induction bs with
  | nil => rfl
  | cons b bs ih =>
    simp only [cString, List.cons_append, List.takeWhile_cons] at ih ⊢
    rw [ih]

/-- A complete request with the right version is unpacked inside the bytes received. -/
theorem unpack_complete {m : Nat} (hm : requestLen bs = some m) (hl : m ≤ bs.length) (hv : bs.getD 0 0 = 5) :
    unpackConnectionPacket junk (filled bs k) s = .ok (bs.getD 1 0, bs.getD 3 0, addrOf bs) s := by
  have h5 : 7 ≤ bs.length := by
    unfold requestLen at hm
    split_ifs at hm <;> simp at hm <;> omega
  rw [unpackConnectionPacket, liftMem_bind_ok (byteAt_filled (by omega)), if_neg (by simpa using hv),
    liftMem_bind_ok (byteAt_filled (by omega)), liftMem_bind_ok (byteAt_filled (by omega))]
  unfold requestLen at hm
  unfold addrOf
  split at hm
  · next h1 =>
    have hm' : m = 10 := by simpa using hm.symm
    rw [if_pos h1, if_pos h1, liftMem_bind_ok (loadBytes_filled (by omega)), bind_of_ok (portAt_filled (by omega))]
    rfl
  · next h1 =>
    split at hm
    · next h4 =>
      have hm' : m = 22 := by simpa using hm.symm
      rw [if_neg h1, if_neg h1, if_pos h4, if_pos h4, liftMem_bind_ok (loadBytes_filled (by omega)),
        bind_of_ok (portAt_filled (by omega))]
      rfl
    · next h4 =>
      split at hm
      · next h3 =>
        obtain ⟨h3, hn⟩ := h3
        have hm' : m = 7 + (bs.getD 4 0).toNat := by simpa using hm.symm
        have hsz : sizeT (schar (bs.getD 4 0)) = (bs.getD 4 0).toNat := by rw [sizeT_schar, if_pos hn]
        rw [if_neg h1, if_neg h1, if_neg h4, if_neg h4, if_pos h3, liftMem_bind_ok (byteAt_filled (by omega)), hsz]
        generalize (bs.getD 4 0).toNat = n at *
        have hp : (5 + n) % 2 ^ 64 = 5 + n := by omega
        have ha : (n + 1) % 2 ^ 64 = n + 1 := by omega
        obtain ⟨sbuffer, hs₁, hs₂⟩ := @store_name junk (slice bs 5 n) n (length_slice (by omega))
        simp only [hp, ha]
        rw [bind_of_ok (portAt_filled (by omega)), liftMem_bind_ok (loadBytes_filled (by omega)),
          liftMem_bind_ok hs₁, liftMem_bind_ok hs₂, cString_append_zero]
        rfl
      · cases hm

/-- Lengths 254 and 255: the copy of the name leaves the buffer. -/
theorem unpack_wrapped {n : Nat} (h3 : bs.getD 3 0 = 3) (hv : bs.getD 0 0 = 5)
    (hn : (bs.getD 4 0).toNat = 254 + n) (hl : bs.length = 5 + n) (hk : bs.length + k = 263) :
    Faults (unpackConnectionPacket junk (filled bs k) s) := by
  have hb := (bs.getD 4 0).toNat_lt
  have hsz : sizeT (schar (bs.getD 4 0)) = 2 ^ 64 - 2 + n := by rw [sizeT_schar, if_neg (by omega)]; omega
  have hp : (5 + (2 ^ 64 - 2 + n)) % 2 ^ 64 = 3 + n := by omega
  have hload : loadBytes (filled bs k) 5 (2 ^ 64 - 2 + n) = .error .readOutside := by
    rw [loadBytes, load_error (by simp; omega)]
    rfl
  rw [unpackConnectionPacket, liftMem_bind_ok (byteAt_filled (by omega)), if_neg (by simpa using hv),
    liftMem_bind_ok (byteAt_filled (by omega)), liftMem_bind_ok (byteAt_filled (by omega)), h3,
    if_neg (by decide), if_neg (by decide), if_pos rfl, liftMem_bind_ok (byteAt_filled (by omega)), hsz]
  simp only [hp]
  rw [bind_of_ok (portAt_filled (by omega)), liftMem_bind_error hload]
  trivial

theorem unpack_badVersion (hl : 1 ≤ bs.length) (hv : bs.getD 0 0 ≠ 5) :
    unpackConnectionPacket junk (filled bs k) s = .error (.exn "Broken package. Incorrect ver.") s := by
  rw [unpackConnectionPacket, liftMem_bind_ok (byteAt_filled (by omega)), if_pos hv]
  rfl

/-- The two functions agree on where the request ends, or the length byte wrapped. -/
theorem addrlenOf_cases {n : Nat} (h : addrlenOf t = some n) :
    (requestLen t = some (n + 6) ∧ n + 6 ≤ 263 ∧ ¬RequestOverruns t) ∨
      (t.getD 3 0 = 3 ∧ 128 ≤ (t.getD 4 0).toNat ∧ n = (2 ^ 64 - 255 + (t.getD 4 0).toNat) % 2 ^ 64) := by
  unfold addrlenOf at h
  unfold requestLen RequestOverruns
  generalize t.getD 3 0 = atyp at *
  split at h
  · next h1 =>
    left
    have hn : n = 4 := by simpa using h.symm
    simp [h1, hn]
  · next h1 =>
    split at h
    · next h3 =>
      simp only [Option.some.injEq, sizeT_schar] at h
      by_cases hl : (t.getD 4 0).toNat < 128
      · left
        rw [if_pos hl] at h
        refine ⟨?_, by omega, by omega⟩
        rw [if_neg h1, if_neg (by simp [h3]), if_pos ⟨h3, hl⟩, Option.some.injEq]
        omega
      · right
        rw [if_neg hl] at h
        exact ⟨h3, by omega, by omega⟩
    · next h3 =>
      split at h
      · next h4 =>
        left
        have hn : n = 16 := by simpa using h.symm
        simp [h4, hn]
      · cases h

theorem answerRequest_complete {n : Nat} (hm : requestLen bs = some (n + 6)) (hl : bs.length = n + 6)
    (hn : n + 6 ≤ 263) : ¬Faults (answerRequest junk (filled bs k) n s) := by
  by_cases hv : bs.getD 0 0 = 5
  · rw [answerRequest, bind_of_ok (unpack_complete hm (by omega) hv)]
    dsimp only
    split
    · exact fun h => h
    · have hp : (n + 6) % 2 ^ 64 = n + 6 := by omega
      rw [liftMem_bind_ok (store_filled (by omega)), hp, liftMem_bind_ok (loadBytes_filled (by simp; omega))]
      generalize hr : slice (bs.set 1 0) 0 (n + 6) = reply
      cases ht : takes s.outp reply.length with
      | true =>
        obtain ⟨s', e', -, -⟩ := sendnEx_ok ht
        rw [bind_of_ok e']
        exact fun h => h
      | false =>
        obtain ⟨s', -, e', -, -⟩ := sendnEx_fails ht
        rw [bind_of_error e']
        exact fun h => h
  · rw [answerRequest, bind_of_error (unpack_badVersion (by omega) hv)]
    exact fun h => h

end

/-! ## The request, step by step -/

/-- The receives of `connect_pkgs`: the buffer and `addrlen`. -/
def recvRequest : Prog (Cells × Nat) := do
  let buf ← recvnEx (filled [] 263) 0 5
  let addrlen ← addrLength buf
  let buf ← recvnEx buf 5 ((addrlen + 1) % 2 ^ 64)
  return (buf, addrlen)

/-- The rest of `connect_pkgs` behind `unpackConnectionPacket`. -/
def replyRequest (buf : Cells) (addrlen : Nat) (cmd : UInt8) (remoteInfo : AddrInfo) : Prog AddrInfo := do
  if cmd ≠ 1 then die ("Socks5 request can not be processed.(CMD=" ++ toString (schar cmd) ++ ")") else
  let buf ← liftMem (store buf 1 [some 0])
  let reply ← liftMem (loadBytes buf 0 ((addrlen + 6) % 2 ^ 64))
  sendnEx reply
  return remoteInfo

theorem connectPkgs_eq (junk : Nat → UInt8) : connectPkgs junk = (do
    let (buf, addrlen) ← recvRequest
    let (cmd, _, remoteInfo) ← unpackConnectionPacket junk buf
    replyRequest buf addrlen cmd remoteInfo) := by
  unfold connectPkgs recvRequest answerRequest replyRequest
  simp only [bind_assoc, pure_bind]

theorem connectPkgs_recvRequest (junk : Nat → UInt8) :
    connectPkgs junk = recvRequest >>= fun r => answerRequest junk r.1 r.2 := by
  unfold connectPkgs recvRequest
  simp only [bind_assoc, pure_bind]

/-- A request that `unpackConnectionPacket` takes apart: complete, and of version 5. -/
def Parsable (t : Bytes) (m : Nat) : Prop := requestLen t = some m ∧ m ≤ t.length ∧ t.getD 0 0 = 5

section
variable {s : Sock} {t : Bytes} {junk : Nat → UInt8} {m : Nat}

theorem requestLen_bounds (h : requestLen t = some m) : 7 ≤ m ∧ m ≤ 134 := by
  unfold requestLen at h
  split_ifs at h with h1 h4 h3
  · simp only [Option.some.injEq] at h
    omega
  · simp only [Option.some.injEq] at h
    omega
  · simp only [Option.some.injEq] at h
    have hn := h3.2
    omega

theorem addrlenOf_of_requestLen (h : requestLen t = some m) : addrlenOf t = some (m - 6) := by
  unfold requestLen at h
  unfold addrlenOf
  generalize t.getD 3 0 = atyp at *
  split_ifs at h with h1 h4 h3
  · rw [if_pos h1, ← Option.some.inj h]
  · rw [if_neg h1, if_neg (by simp [h4]), if_pos h4, ← Option.some.inj h]
  · have hn : (t.getD 4 0).toNat < 128 := h3.2
    rw [if_neg h1, if_pos h3.1, sizeT_schar, if_pos hn, ← Option.some.inj h, Option.some.injEq]
    omega

/-- The five fixed bytes are read, then as many as `addrlenOf` says. -/
theorem recvRequest_head (hd : delivered s.inp = t) (hl : 5 ≤ t.length) :
    ∃ s₀, delivered s₀.inp = t.drop 5 ∧ s₀.outp = s.outp ∧ s₀.sent = s.sent ∧
      recvRequest s = match addrlenOf t with
        | some n => (recvnEx (filled (t.take 5) 258) 5 ((n + 1) % 2 ^ 64) >>= fun buf => pure (buf, n)) s₀
        | none => .error (.exn "Wrong ATYP in connect packet.") s₀ := by
  obtain ⟨s₀, e₀, d₀, o₀, t₀⟩ := recvnEx_ok [] 263 5 hd hl (by omega)
  have hlen : (t.take 5).length = 5 := by simpa using hl
  have ha := @addrLength_filled (t.take 5) 258 (by omega) s₀
  rw [addrlenOf_take 5 le_rfl] at ha
  refine ⟨s₀, d₀, o₀, t₀, ?_⟩
  rw [List.length_nil, List.nil_append] at e₀
  rw [recvRequest, bind_of_ok e₀]
  cases hn : addrlenOf t with
  | none =>
    rw [hn] at ha
    exact bind_of_error ha
  | some n =>
    rw [hn] at ha
    exact bind_of_ok ha

/-- A complete request is received as it is, and nothing behind it. -/
theorem recvRequest_complete (hd : delivered s.inp = t) (hm : requestLen t = some m) (hl : m ≤ t.length) :
    ∃ s₁, delivered s₁.inp = t.drop m ∧ s₁.outp = s.outp ∧ s₁.sent = s.sent ∧
      recvRequest s = .ok (filled (t.take m) (263 - m), m - 6) s₁ := by
  obtain ⟨h7, h134⟩ := requestLen_bounds hm
  obtain ⟨s₀, d₀, o₀, t₀, e₀⟩ := recvRequest_head hd (by omega)
  have hlen : (t.take 5).length = 5 := by simp; omega
  have hmod : (m - 6 + 1) % 2 ^ 64 = m - 5 := by omega
  obtain ⟨s₁, e₁, d₁, o₁, t₁⟩ := recvnEx_ok (t.take 5) 258 (m - 5) d₀ (by simp; omega) (by omega)
  have htake : t.take 5 ++ (t.drop 5).take (m - 5) = t.take m := by
    rw [← List.take_add, Nat.add_sub_cancel' (by omega)]
  have hk : 258 - (m - 5) = 263 - m := by omega
  rw [hlen, htake, hk] at e₁
  refine ⟨s₁, ?_, o₁.trans o₀, t₁.trans t₀, ?_⟩
  · rw [d₁, List.drop_drop, Nat.add_sub_cancel' (by omega)]
  · rw [e₀, addrlenOf_of_requestLen hm]
    simp only [hmod]
    rw [bind_of_ok e₁]
    rfl

/-- Any other stream fails in a receive, or a wrapped length leaves the buffer a few bytes long. -/
theorem recvRequest_incomplete (hd : delivered s.inp = t) (h : ∀ m, requestLen t = some m → t.length < m) :
    (∃ what s₁, ¬RequestOverruns t ∧ recvRequest s = .error (.exn what) s₁) ∨
    (∃ f s₁, RequestOverruns t ∧ recvRequest s = .error (.fault f) s₁) ∨
      ∃ j n s₁, t.getD 3 0 = 3 ∧ (t.getD 4 0).toNat = 254 + j ∧ 5 + j ≤ t.length ∧
        recvRequest s = .ok (filled (t.take (5 + j)) (258 - j), n) s₁ := by
  by_cases hl : 5 ≤ t.length
  swap
  · obtain ⟨s', e'⟩ := recvnEx_eof [] 263 5 hd (by omega) (by omega)
    refine .inl ⟨_, s', ?_, bind_of_error e'⟩
    rintro ⟨-, h | h | h⟩ <;> omega
  obtain ⟨s₀, d₀, -, -, e₀⟩ := recvRequest_head hd hl
  have hlen : (t.take 5).length = 5 := by simpa using hl
  have hdrop : (t.drop 5).length = t.length - 5 := List.length_drop
  cases hn : addrlenOf t with
  | none =>
    rw [hn] at e₀
    refine .inl ⟨_, s₀, ?_, e₀⟩
    rintro ⟨h3, -⟩
    rw [addrlenOf, h3] at hn
    simp at hn
  | some n =>
    rw [hn] at e₀
    simp only at e₀
    rcases addrlenOf_cases hn with ⟨hm, hn6, hno⟩ | ⟨h3, h128, hval⟩
    · have hshort := h _ hm
      obtain ⟨s₁, e₁⟩ := recvnEx_eof (t.take 5) 258 ((n + 1) % 2 ^ 64) d₀ (by omega) (by omega)
      rw [hlen] at e₁
      exact .inl ⟨_, s₁, hno, by rw [e₀, bind_of_error e₁]⟩
    · have hb := (t.getD 4 0).toNat_lt
      by_cases h253 : (t.getD 4 0).toNat ≤ 253
      · -- `recvn` is asked for nearly `2 ^ 64` bytes
        have hbig : 2 ^ 64 - 254 < (n + 1) % 2 ^ 64 := by omega
        by_cases hlong : 263 < t.length
        · obtain ⟨s₁, e₁⟩ := recvnEx_overrun (t.take 5) 258 ((n + 1) % 2 ^ 64) d₀ (by omega) (by omega)
          rw [hlen] at e₁
          exact .inr (.inl ⟨_, s₁, ⟨h3, .inl ⟨h128, h253, hlong⟩⟩, by rw [e₀, bind_of_error e₁]⟩)
        · obtain ⟨s₁, e₁⟩ := recvnEx_eof (t.take 5) 258 ((n + 1) % 2 ^ 64) d₀ (by omega) (by omega)
          rw [hlen] at e₁
          refine .inl ⟨_, s₁, ?_, by rw [e₀, bind_of_error e₁]⟩
          rintro ⟨-, h | h | h⟩ <;> omega
      · -- the receive is short by a wrap, and the copy of the name will not be
        obtain ⟨j, hj⟩ : ∃ j, (t.getD 4 0).toNat = 254 + j := ⟨(t.getD 4 0).toNat - 254, by omega⟩
        have hmod : (n + 1) % 2 ^ 64 = j := by omega
        rw [hmod] at e₀
        by_cases hen : 5 + j ≤ t.length
        · obtain ⟨s₁, e₁, -, -, -⟩ := recvnEx_ok (t.take 5) 258 j d₀ (by omega) (by omega)
          rw [hlen, ← List.take_add] at e₁
          exact .inr (.inr ⟨j, n, s₁, h3, hj, hen, by rw [e₀, bind_of_ok e₁]; rfl⟩)
        · obtain ⟨s₁, e₁⟩ := recvnEx_eof (t.take 5) 258 j d₀ (by omega) (by omega)
          rw [hlen] at e₁
          refine .inl ⟨_, s₁, ?_, by rw [e₀, bind_of_error e₁]⟩
          rintro ⟨-, h | h | h⟩ <;> omega

/-- On a wrapped length the copy of the name leaves the buffer, or the version is not even looked past. -/
theorem unpack_short {j : Nat} (h3 : t.getD 3 0 = 3) (hj : (t.getD 4 0).toNat = 254 + j) (hl : 5 + j ≤ t.length) :
    (Faults (unpackConnectionPacket junk (filled (t.take (5 + j)) (258 - j)) s) ∧ RequestOverruns t) ∨
      ((∃ what, unpackConnectionPacket junk (filled (t.take (5 + j)) (258 - j)) s = .error (.exn what) s) ∧
        ¬RequestOverruns t) := by
  have hb := (t.getD 4 0).toNat_lt
  have hl5 : (t.take (5 + j)).length = 5 + j := by simpa using hl
  by_cases hv : t.getD 0 0 = 5
  · refine .inl ⟨unpack_wrapped (by rwa [getD_take (by omega)]) (by rwa [getD_take (by omega)])
      (by rwa [getD_take (by omega)]) hl5 (by omega), h3, ?_⟩
    rcases Nat.lt_or_ge j 1 with h0 | h1
    · exact .inr (.inl ⟨by omega, hv, by omega⟩)
    · exact .inr (.inr ⟨by omega, hv, by omega⟩)
  · refine .inr ⟨⟨_, unpack_badVersion (by omega) (by rwa [getD_take (by omega)])⟩, ?_⟩
    rintro ⟨-, h | h | h⟩
    · omega
    · exact hv h.2.1
    · exact hv h.2.1

theorem slice_take {off n : Nat} (h : off + n ≤ m) : slice (t.take m) off n = slice t off n := by
  rw [slice, slice, List.drop_take, List.take_take, Nat.min_eq_left (by omega)]

theorem requestLen_take {k : Nat} (h : 5 ≤ k) : requestLen (t.take k) = requestLen t := by
  rw [requestLen, requestLen, getD_take (by omega), getD_take (by omega)]

theorem addrOf_take (hm : requestLen t = some m) : addrOf (t.take m) = addrOf t := by
  have h7 := (requestLen_bounds hm).1
  rw [addrOf, addrOf, getD_take (by omega), getD_take (by omega)]
  unfold requestLen at hm
  split_ifs at hm with h1 h4 h3
  · have hm' := Option.some.inj hm
    rw [if_pos h1, if_pos h1, slice_take (by omega), slice_take (by omega)]
  · have hm' := Option.some.inj hm
    rw [if_neg h1, if_neg h1, if_pos h4, if_pos h4, slice_take (by omega), slice_take (by omega)]
  · have hm' := Option.some.inj hm
    simp only [if_neg h1, if_neg h4]
    rw [slice_take (by omega), slice_take (by omega)]

/-- `connect_pkgs` leaves its buffers exactly on the overrunning requests. -/
theorem connectPkgs_faults_iff (hd : delivered s.inp = t) : Faults (connectPkgs junk s) ↔ RequestOverruns t := by
  rw [connectPkgs_recvRequest]
  by_cases hc : ∃ m, requestLen t = some m ∧ m ≤ t.length
  · obtain ⟨m, hm, hl⟩ := hc
    obtain ⟨h7, h134⟩ := requestLen_bounds hm
    obtain ⟨s₁, -, -, -, e₁⟩ := recvRequest_complete hd hm hl
    have hm6 : requestLen (t.take m) = some (m - 6 + 6) := by
      rw [requestLen_take (by omega), hm, Nat.sub_add_cancel (by omega)]
    rw [bind_of_ok e₁]
    refine iff_of_false (answerRequest_complete hm6 (by simp; omega) (by omega)) ?_
    rcases addrlenOf_cases (addrlenOf_of_requestLen hm) with ⟨-, -, hno⟩ | ⟨-, -, hval⟩
    · exact hno
    · have hb := (t.getD 4 0).toNat_lt
      omega
  · have hshort : ∀ m, requestLen t = some m → t.length < m := by
      intro m hm
      by_contra hlt
      exact hc ⟨m, hm, by omega⟩
    rcases recvRequest_incomplete hd hshort with ⟨e, s₁, ho, e₁⟩ | ⟨f, s₁, ho, e₁⟩ | ⟨j, k, s₁, h3, hj, hl, e₁⟩
    · rw [bind_of_error e₁]
      exact iff_of_false (fun h => h) ho
    · rw [bind_of_error e₁]
      exact iff_of_true trivial ho
    · rw [bind_of_ok e₁]
      rcases @unpack_short s₁ t junk j h3 hj hl with ⟨hf, ho⟩ | ⟨⟨what, e⟩, ho⟩
      · exact iff_of_true (faults_bind hf) ho
      · rw [answerRequest, bind_of_error e]
        exact iff_of_false (fun h => h) ho

/-- A parsable request is taken apart into its fields. -/
theorem unpack_parsable (h : Parsable t m) (k : Nat) :
    unpackConnectionPacket junk (filled (t.take m) k) s = .ok (t.getD 1 0, t.getD 3 0, addrOf t) s := by
  obtain ⟨hm, hl, hv⟩ := h
  have h7 := (requestLen_bounds hm).1
  have hu := @unpack_complete s (t.take m) k junk m (by rw [requestLen_take (by omega), hm]) (by simp [hl])
    (by rwa [getD_take (by omega)])
  rwa [getD_take (by omega), getD_take (by omega), addrOf_take hm] at hu

/-- What is not parsable does not get through `unpackConnectionPacket`. -/
theorem unpack_fails (hd : delivered s.inp = t) (h : ∀ m, ¬Parsable t m) {buf : Cells} {n : Nat} {s₁ : Sock}
    (he : recvRequest s = .ok (buf, n) s₁) : ∃ e s₂, unpackConnectionPacket junk buf s₁ = .error e s₂ := by
  by_cases hc : ∃ m, requestLen t = some m ∧ m ≤ t.length
  · obtain ⟨m, hm, hl⟩ := hc
    have hv : t.getD 0 0 ≠ 5 := fun hv => h m ⟨hm, hl, hv⟩
    obtain ⟨s', -, -, -, e'⟩ := recvRequest_complete hd hm hl
    rw [e'] at he
    cases he
    have h7 := (requestLen_bounds hm).1
    exact ⟨_, _, unpack_badVersion (by simp; omega) (by rwa [getD_take (by omega)])⟩
  · have hshort : ∀ m, requestLen t = some m → t.length < m := by
      intro m hm
      by_contra hlt
      exact hc ⟨m, hm, by omega⟩
    rcases recvRequest_incomplete hd hshort with ⟨e, s', -, e'⟩ | ⟨e, s', -, e'⟩ | ⟨j, k, s', h3, hj, hl, e'⟩
    · rw [e'] at he
      cases he
    · rw [e'] at he
      cases he
    · rw [e'] at he
      cases he
      rcases @unpack_short s₁ t junk j h3 hj hl with ⟨hf, -⟩ | ⟨⟨what, e⟩, -⟩
      · obtain ⟨f, s₂, e⟩ := eq_fault_of_faults hf
        exact ⟨_, s₂, e⟩
      · exact ⟨_, _, e⟩

/-- The reply to a CONNECT is the request with byte 1 set to 0. -/
theorem replyRequest_connect (h : Parsable t m) (info : AddrInfo) (s : Sock) :
    replyRequest (filled (t.take m) (263 - m)) (m - 6) 1 info s =
      (sendnEx ((t.take m).set 1 0) >>= fun _ => pure info) s := by
  obtain ⟨hm, hl, -⟩ := h
  obtain ⟨h7, h134⟩ := requestLen_bounds hm
  have hlen : ((t.take m).set 1 0).length = m := by simp [hl]
  have hmod : (m - 6 + 6) % 2 ^ 64 = m := by omega
  have hload : loadBytes (filled ((t.take m).set 1 0) (263 - m)) 0 m = .ok ((t.take m).set 1 0) := by
    rw [loadBytes_filled (by omega), slice_zero_left, List.take_of_length_le (by omega)]
  simp only [replyRequest, ne_eq, not_true_eq_false, if_false, hmod]
  rw [liftMem_bind_ok (store_filled (by simp; omega)), liftMem_bind_ok hload]

/-- A complete CONNECT is answered with its own bytes, byte 1 set to 0, and nothing behind it is consumed. -/
theorem connectPkgs_complete (hd : delivered s.inp = t) (h : Parsable t m) (hc : t.getD 1 0 = 1) :
    ∃ s₁, delivered s₁.inp = t.drop m ∧ s₁.outp = s.outp ∧ s₁.sent = s.sent ∧
      connectPkgs junk s = (sendnEx ((t.take m).set 1 0) >>= fun _ => pure (addrOf t)) s₁ := by
  obtain ⟨s₁, d₁, o₁, t₁, e₁⟩ := recvRequest_complete hd h.1 h.2.1
  refine ⟨s₁, d₁, o₁, t₁, ?_⟩
  rw [connectPkgs_eq, bind_of_ok e₁]
  simp only
  rw [bind_of_ok (unpack_parsable h _), hc]
  exact replyRequest_connect h (addrOf t) s₁

theorem connectPkgs_ok (hd : delivered s.inp = t) (h : Parsable t m) (hc : t.getD 1 0 = 1)
    (ht : takes s.outp m = true) :
    ∃ s', connectPkgs junk s = .ok (addrOf t) s' ∧ delivered s'.inp = t.drop m ∧ s'.sent = s.sent ++ (t.take m).set 1 0 := by
  obtain ⟨s₁, d₁, o₁, t₁, e₁⟩ := @connectPkgs_complete s t junk m hd h hc
  have hlen : ((t.take m).set 1 0).length = m := by simp [h.2.1]
  obtain ⟨s₂, e₂, i₂, t₂⟩ := @sendnEx_ok ((t.take m).set 1 0) s₁ (by rw [o₁, hlen, ht])
  exact ⟨s₂, by rw [e₁, bind_of_ok e₂]; rfl, by rw [i₂, d₁], by rw [t₂, t₁]⟩

/-- An accepted request is a complete CONNECT, and its address is the one that is returned. -/
theorem connectPkgs_accepted (hd : delivered s.inp = t) {a : AddrInfo} {s' : Sock}
    (h : connectPkgs junk s = .ok a s') : ∃ m, Parsable t m ∧ t.getD 1 0 = 1 ∧ a = addrOf t := by
  rw [connectPkgs_eq] at h
  obtain ⟨⟨buf, n⟩, s₁, e₁, h⟩ := of_bind_eq_ok h
  obtain ⟨⟨cmd, atyp, info⟩, s₂, e₂, h⟩ := of_bind_eq_ok h
  by_cases hp : ∃ m, Parsable t m
  swap
  · obtain ⟨e, s₃, e₃⟩ := @unpack_fails s t junk hd (fun m hm => hp ⟨m, hm⟩) _ _ _ e₁
    rw [e₃] at e₂
    cases e₂
  obtain ⟨m, hm, hl, hv⟩ := hp
  obtain ⟨s₁', -, -, -, e₁'⟩ := recvRequest_complete hd hm hl
  rw [e₁'] at e₁
  cases e₁
  rw [unpack_parsable ⟨hm, hl, hv⟩] at e₂
  cases e₂
  refine ⟨m, ⟨hm, hl, hv⟩, ?_⟩
  simp only [replyRequest] at h
  split at h
  · cases h
  next hc =>
  obtain ⟨buf₁, s₃, -, h⟩ := of_bind_eq_ok h
  obtain ⟨reply, s₄, -, h⟩ := of_bind_eq_ok h
  obtain ⟨u, s₅, -, h⟩ := of_bind_eq_ok h
  cases h
  exact ⟨not_not.1 hc, rfl⟩
end

/-! ## The front end -/

/-- The greeting does not overrun; and when it is complete and its reply goes out, neither does the request
behind it. -/
def FrontEndFits (s : Sock) : Prop :=
  let d := delivered s.inp
  ¬GreetingOverruns d ∧
    (GreetingComplete d → takes s.outp 2 = true → ¬RequestOverruns (d.drop (2 + (d.getD 1 0).toNat)))

/-- For every byte stream, every split of it and every `malloc`: the front end stays in `headBuf`, `buf` and the
domain buffer and unpacks only received bytes exactly when no length byte of 128 and more is followed up. -/
theorem front_end_in_bounds_iff (junk : Nat → UInt8) (s : Sock) :
    ¬Faults (frontEnd junk s) ↔ FrontEndFits s := by
  unfold FrontEndFits
  generalize hd : delivered s.inp = d
  by_cases ho : GreetingOverruns d
  · obtain ⟨s', e'⟩ := handshakePkgs_overruns hd ho
    rw [frontEnd, bind_of_error e']
    exact iff_of_false (fun h => h trivial) (fun h => h.1 ho)
  by_cases hc : GreetingComplete d
  swap
  · obtain ⟨what, s', e', -⟩ := handshakePkgs_rejects hd hc ho
    rw [frontEnd, bind_of_error e']
    exact iff_of_true (fun h => h) ⟨ho, fun h => absurd h hc⟩
  obtain ⟨s₁, d₁, o₁, -, e₁⟩ := handshakePkgs_complete hd hc
  generalize hr : ([5, if 0 ∈ slice d 2 (d.getD 1 0).toNat then 0 else 255] : Bytes) = reply at e₁
  have hlen : reply.length = 2 := by rw [← hr]; rfl
  cases ht : takes s.outp 2 with
  | true =>
    obtain ⟨s₂, e₂, i₂, -⟩ := @sendnEx_ok reply s₁ (by rw [o₁, hlen, ht])
    have hfront : frontEnd junk s = connectPkgs junk s₂ := bind_of_ok (e₁.trans e₂)
    have hreq : Faults (connectPkgs junk s₂) ↔ _ := connectPkgs_faults_iff (by rw [i₂, d₁])
    rw [hfront, hreq]
    exact ⟨fun h => ⟨ho, fun _ _ => h⟩, fun h => h.2 hc rfl⟩
  | false =>
    obtain ⟨s₂, -, e₂, -, -⟩ := @sendnEx_fails reply s₁ (by rw [o₁, hlen, ht])
    have hfront : frontEnd junk s = .error (.exn "sendn failed.") s₂ := bind_of_error (e₁.trans e₂)
    rw [hfront]
    exact iff_of_true (fun h => h) ⟨ho, fun _ h => absurd h (by simp)⟩

/-- A greeting that announces 128 methods and is followed by 257 bytes is stored past `headBuf`. -/
theorem greeting_overruns_headBuf :
    Faults (frontEnd (fun _ => 0) ⟨[.data (5 :: 128 :: List.replicate 257 0)], [], []⟩) := by
  have hl : (List.replicate 257 (0 : UInt8)).length = 257 := by rw [List.length_replicate]
  generalize List.replicate 257 (0 : UInt8) = tail at hl ⊢
  have hd : delivered [.data (5 :: 128 :: tail)] = 5 :: 128 :: tail := by simp [delivered]
  obtain ⟨s', e'⟩ := @handshakePkgs_overruns ⟨[.data (5 :: 128 :: tail)], [], []⟩ _ hd ⟨rfl, by simp, by simp [hl]⟩
  rw [frontEnd, bind_of_error e']
  trivial

end SnakeSocks.Socks5
