import SnakeSocks.Native.Relay

/-!
# Length-prefixed packets on a socket

| here | there |
| --- | --- |
| `sendLengthAndPacket`, `recvLengthAndPacket` | `NetLib.hpp:31`, `:39` |
| `recvAuthReply`  | `outbound_tunnel::doAuth` (`tunnel.cc:141-148`) |
| `recvDnsReply`   | `Socks5Connection::dns_pkgs` (`socks5.cc:283-287`) |
| `recvDataFrame`  | `Socks5Connection::passData` (`socks5.cc:336-341`) |
| `readFull`, `readB`, `writeB` | `io.ReadFull`, `BssRW.ReadB`, `BssRW.WriteB` (`server-go/src/server/util.go:42-84`) |

The socket is the script of `Native/Sio.lean`; the blocks a reader allocates for a packet are recorded, so that
"refused before anything is allocated" can be said. What a sender and a receiver have to do is stated once (`Sends`,
`Receives`), the four functions are shown to do it, and the run over a list of packets is proved for any pair.
-/

namespace SnakeSocks.NetLib

open ByteLib CMem Frames Sio
open Effects (bind_of_ok bind_of_error of_bind_eq_ok)

/-! ## The code -/

/-- A process at one socket: `mallocs` are the sizes of the packet buffers it has allocated. -/
structure Proc where
  sock : Sock
  mallocs : List Nat

abbrev Io := EStateM Stop Proc

section
variable {α : Type}

def onSock (x : Prog α) : Io α := fun p =>
  match x p.sock with
  | .ok a sock => .ok a { p with sock }
  | .error e sock => .error e { p with sock }

def raise (what : String) : Io α := fun p => .error (.exn what) p

/-- `x`, with `what` for the text of its exceptions. -/
def orRaise (what : String) (x : Io α) : Io α := fun p =>
  match x p with
  | .error (.exn _) p' => .error (.exn what) p'
  | r => r

end

def allocate (n : Nat) : Io Unit := fun p => .ok () { p with mallocs := p.mallocs ++ [n] }

/-- `recvn_ex` into a buffer of exactly `n` bytes. -/
def recvBytes (n : Nat) : Io Bytes := onSock do
  let buf ← recvnEx (filled [] n) 0 n
  liftMem (loadBytes buf 0 n)

def sendBytes (bs : Bytes) : Io Unit := onSock (sendnEx bs)

/-- 64 MiB. -/
def maxPacket : Nat := 64 * 1024 * 1024

def sendLengthAndPacket (dat : BinarySafeString) : Io Unit := do
  if dat.length.toNat > maxPacket then
    raise refuseSend
  else
    sendBytes (beBytes 4 dat.length.toNat)
    sendBytes dat.bytes

/-- Four bytes and `ntohl`. -/
def recvLength : Io Nat := do
  let n ← recvBytes 4
  return beNat n

/-- `malloc(length)` and the receive into it. -/
def recvBody (length : Nat) : Io BinarySafeString := do
  allocate length
  let data ← recvBytes length
  return .ofBlock data

/-- The readers that look at the length before they allocate, by the text of their exception. -/
def recvChecked (what : String) : Io BinarySafeString := do
  let length ← recvLength
  if length > maxPacket then raise what else recvBody length

def recvLengthAndPacket : Io BinarySafeString := recvChecked refuseRecv

def recvAuthReply : Io BinarySafeString := recvChecked "authReply is too long(incorrect)"

/-- `dns_pkgs` allocates whatever is announced. -/
def recvDnsReply : Io BinarySafeString := do
  let length ← recvLength
  recvBody length

/-- `malloc(binLen)` and `recvn_and_free_on_err` into it (`connection.hpp:46`). -/
def recvBodyOrFree (binLen : Nat) : Io (Option BinarySafeString) := do
  allocate binLen
  let data ← orRaise "RecvnAndFree failed." (recvBytes binLen)
  return some (.ofBlock data)

/-- `passData` allocates whatever is announced, and takes a length of 0 for the end of the session (`none`). -/
def recvDataFrame : Io (Option BinarySafeString) := do
  let binLen ← recvLength
  if binLen = 0 then return none else recvBodyOrFree binLen

/-- `io.ReadFull`: all of `n` bytes, or one of its two errors. -/
def readFull (n : Nat) : Io Bytes := fun p =>
  orRaise (if delivered p.sock.inp = [] then "EOF" else "unexpected EOF") (recvBytes n) p

/-- `C.CString` puts a terminator behind the packet; `length` does not count it. -/
def cgoString (packet : Bytes) : BinarySafeString where
  nullTerminated := false
  length := UInt32.ofNat packet.length
  str := some (packet ++ [0])
  held := by
    have := Nat.mod_le packet.length (2 ^ 32)
    simp
    omega

/-- With all or nothing from `ReadFull` the branches for a short count without an error are dead. -/
def readB : Io BinarySafeString := do
  let header ← readFull 4
  let size := beNat header
  if size > maxPacket then raise "Memory Boom!" else
  allocate size
  let packet ← readFull size
  return cgoString packet

/-- No check of the length here. -/
def writeB (dat : BinarySafeString) : Io Unit := do
  sendBytes (beBytes 4 dat.length.toNat)
  sendBytes dat.bytes

/-- One packet after the other. -/
def sendAll (send : BinarySafeString → Io Unit) : List BinarySafeString → Io Unit
  | [] => return ()
  | b :: bs => do
    send b
    sendAll send bs

def recvMany (recv : Io BinarySafeString) : Nat → Io (List BinarySafeString)
  | 0 => return []
  | n + 1 => do
    let b ← recv
    let bs ← recvMany recv n
    return b :: bs

/-! ## Running them -/

theorem allocate_bind {β : Type} (n : Nat) (f : Unit → Io β) (p : Proc) :
    (allocate n >>= f) p = f () { p with mallocs := p.mallocs ++ [n] } := rfl

section
variable {p : Proc} {d : Bytes} {n : Nat}

/-- The length the first four bytes of a stream announce. -/
def announced (d : Bytes) : Nat := beNat (d.take 4)

theorem recvBytes_ok (hd : delivered p.sock.inp = d) (h : n ≤ d.length) :
    ∃ p', recvBytes n p = .ok (d.take n) p' ∧ delivered p'.sock.inp = d.drop n ∧ p'.mallocs = p.mallocs := by
  obtain ⟨s, e, hs, -, -⟩ := recvnEx_ok [] n n hd h le_rfl
  rw [List.length_nil, List.nil_append] at e
  have hl : (d.take n).length = n := by simpa using h
  have hb : loadBytes (filled (d.take n) (n - n)) 0 n = .ok (d.take n) := by
    rw [loadBytes_filled (by omega), slice_zero_left, List.take_of_length_le (by omega)]
  refine ⟨{ p with sock := s }, ?_, hs, rfl⟩
  simp only [recvBytes, onSock, bind_of_ok e, hb]
  rfl

theorem recvBytes_eof (hd : delivered p.sock.inp = d) (h : d.length < n) :
    ∃ p', recvBytes n p = .error (.exn "recvn failed.") p' ∧ p'.mallocs = p.mallocs := by
  obtain ⟨s, e⟩ := recvnEx_eof [] n n hd h (by omega)
  rw [List.length_nil] at e
  refine ⟨{ p with sock := s }, ?_, rfl⟩
  simp only [recvBytes, onSock, bind_of_error e]

theorem recvLength_ok (hd : delivered p.sock.inp = d) (h : 4 ≤ d.length) :
    ∃ p', recvLength p = .ok (announced d) p' ∧ delivered p'.sock.inp = d.drop 4 ∧ p'.mallocs = p.mallocs := by
  obtain ⟨p', e, hp, hm⟩ := recvBytes_ok hd h
  exact ⟨p', by rw [recvLength, bind_of_ok e]; rfl, hp, hm⟩

theorem recvLength_eof (hd : delivered p.sock.inp = d) (h : d.length < 4) :
    ∃ p', recvLength p = .error (.exn "recvn failed.") p' ∧ p'.mallocs = p.mallocs := by
  obtain ⟨p', e, hm⟩ := recvBytes_eof hd h
  exact ⟨p', by rw [recvLength, bind_of_error e], hm⟩

theorem recvBody_ok (hd : delivered p.sock.inp = d) (h : n ≤ d.length) :
    ∃ p', recvBody n p = .ok (.ofBlock (d.take n)) p' ∧ delivered p'.sock.inp = d.drop n := by
  obtain ⟨p', e, hp, -⟩ := recvBytes_ok (p := { p with mallocs := p.mallocs ++ [n] }) hd h
  refine ⟨p', ?_, hp⟩
  rw [recvBody, allocate_bind, bind_of_ok e]
  rfl

theorem recvBody_eof (hd : delivered p.sock.inp = d) (h : d.length < n) :
    ∃ p', recvBody n p = .error (.exn "recvn failed.") p' := by
  obtain ⟨p', e, -⟩ := recvBytes_eof (p := { p with mallocs := p.mallocs ++ [n] }) hd h
  refine ⟨p', ?_⟩
  rw [recvBody, allocate_bind, bind_of_error e]

theorem readFull_ok (hd : delivered p.sock.inp = d) (h : n ≤ d.length) :
    ∃ p', readFull n p = .ok (d.take n) p' ∧ delivered p'.sock.inp = d.drop n ∧ p'.mallocs = p.mallocs := by
  obtain ⟨p', e, hp, hm⟩ := recvBytes_ok hd h
  exact ⟨p', by rw [readFull, orRaise, e], hp, hm⟩

theorem readFull_eof (hd : delivered p.sock.inp = d) (h : d.length < n) :
    ∃ what p', readFull n p = .error (.exn what) p' := by
  obtain ⟨p', e, -⟩ := recvBytes_eof hd h
  exact ⟨_, p', by rw [readFull, orRaise, e]⟩

end

/-! ### Sending -/

/-- The transport will take `n` bytes, a piece of at least one byte at a time. -/
def willing : List SendEv → Nat → Bool
  | _, 0 => true
  | [], _ + 1 => false
  | .eintr :: evs, n + 1 => willing evs (n + 1)
  | .wrote 0 :: _, _ + 1 => false
  | .wrote (_ + 1) :: evs, n + 1 => willing evs n

theorem willing_mono : ∀ {evs : List SendEv} {m n : Nat}, n ≤ m → willing evs m = true → willing evs n = true
  | _, _, 0, _, _ => by simp [willing]
  | [], m + 1, n + 1, _, h => by simp [willing] at h
  | .eintr :: evs, m + 1, n + 1, hle, h => by
    simp only [willing] at h ⊢
    exact willing_mono hle h
  | .wrote 0 :: _, m + 1, n + 1, _, h => by simp [willing] at h
  | .wrote (_ + 1) :: evs, m + 1, n + 1, hle, h => by
    simp only [willing] at h ⊢
    exact willing_mono (by omega) h

theorem sendn_willing : ∀ (evs : List SendEv) (bs : Bytes) (n : Nat), willing evs (bs.length + n) = true →
    ∃ rest, sendn evs bs = (bs, some rest) ∧ willing rest n = true
  | evs, [], n, h => ⟨evs, by simp [sendn], by simpa using h⟩
  | [], b :: bs, n, h => by
    rw [List.length_cons, Nat.add_right_comm] at h
    simp [willing] at h
  | .eintr :: evs, b :: bs, n, h => by
    rw [List.length_cons, Nat.add_right_comm] at h
    obtain ⟨rest, hr, hw⟩ := sendn_willing evs (b :: bs) n
      (by rw [List.length_cons, Nat.add_right_comm]; simpa [willing] using h)
    exact ⟨rest, by simpa [sendn] using hr, hw⟩
  | .wrote 0 :: evs, b :: bs, n, h => by
    rw [List.length_cons, Nat.add_right_comm] at h
    simp [willing] at h
  | .wrote (k + 1) :: evs, b :: bs, n, h => by
    rw [List.length_cons, Nat.add_right_comm] at h
    have hw : willing evs (bs.length + n) = true := by simpa [willing] using h
    obtain ⟨rest, hr, hw'⟩ := sendn_willing evs (bs.drop k) n
      (willing_mono (by simp) hw)
    exact ⟨rest, by simp [sendn, hr], hw'⟩

/-- A call that succeeds has sent every byte. -/
theorem sendn_eq_some : ∀ {evs rest : List SendEv} {bs w : Bytes}, sendn evs bs = (w, some rest) → w = bs
  | evs, _, [], w, h => by
    simp only [sendn, Prod.mk.injEq] at h
    exact h.1.symm
  | [], _, b :: bs, w, h => by simp [sendn] at h
  | .eintr :: evs, _, b :: bs, w, h => sendn_eq_some (by simpa [sendn] using h)
  | .wrote 0 :: evs, _, b :: bs, w, h => by simp [sendn] at h
  | .wrote (k + 1) :: evs, rest, b :: bs, w, h => by
    simp only [sendn, Prod.mk.injEq] at h
    have ih : (sendn evs (bs.drop k)).1 = bs.drop k := sendn_eq_some (Prod.ext rfl h.2)
    rw [← h.1, ih]
    simp

theorem sendBytes_frames {bs : Bytes} {p p' : Proc} (h : sendBytes bs p = .ok () p') :
    p'.sock.sent = p.sock.sent ++ bs := by
  simp only [sendBytes, onSock, sendnEx] at h
  rcases hs : sendn p.sock.outp bs with ⟨w, _ | rest⟩
  · rw [hs] at h
    cases h
  · rw [hs] at h
    cases h
    rw [sendn_eq_some hs]

theorem sendBytes_willing (bs : Bytes) {p : Proc} {n : Nat} (h : willing p.sock.outp (bs.length + n) = true) :
    ∃ p', sendBytes bs p = .ok () p' ∧ p'.sock.inp = p.sock.inp ∧ willing p'.sock.outp n = true := by
  obtain ⟨rest, hr, hw⟩ := sendn_willing _ _ _ h
  refine ⟨{ p with sock := { p.sock with outp := rest, sent := p.sock.sent ++ bs } }, ?_, rfl, hw⟩
  simp only [sendBytes, onSock, sendnEx, hr]

/-! ## What a sender and a receiver do -/

/-- A sender puts the frame on the wire when its calls succeed, and they do if the transport takes enough bytes. -/
structure Sends (send : BinarySafeString → Io Unit) : Prop where
  frames : ∀ {b : BinarySafeString} {p p' : Proc}, send b p = .ok () p' → p'.sock.sent = p.sock.sent ++ frame 4 b.bytes
  succeeds : ∀ {b : BinarySafeString} {p : Proc} {n : Nat}, b.length.toNat ≤ maxPacket →
    willing p.sock.outp (4 + b.length.toNat + n) = true → ∃ p', send b p = .ok () p' ∧ willing p'.sock.outp n = true

/-- A receiver returns a complete packet and stops behind it; it fails on a truncated one; and it refuses an announced
length of more than 64 MiB with nothing allocated and the body still in the stream. -/
structure Receives (recv : Io BinarySafeString) : Prop where
  accepts : ∀ {p : Proc} {d : Bytes}, delivered p.sock.inp = d → 4 + announced d ≤ d.length → announced d ≤ maxPacket →
    ∃ b p', recv p = .ok b p' ∧ b.bytes = slice d 4 (announced d) ∧ delivered p'.sock.inp = d.drop (4 + announced d)
  truncated : ∀ {p : Proc} {d : Bytes}, delivered p.sock.inp = d →
    d.length < 4 ∨ announced d ≤ maxPacket ∧ d.length < 4 + announced d → ∃ what p', recv p = .error (.exn what) p'
  refuses : ∀ {p : Proc} {d : Bytes}, delivered p.sock.inp = d → 4 ≤ d.length → maxPacket < announced d →
    ∃ what p', recv p = .error (.exn what) p' ∧ delivered p'.sock.inp = d.drop 4 ∧ p'.mallocs = p.mallocs

section
variable {p : Proc} {d : Bytes}

theorem announced_lt (d : Bytes) : announced d < 2 ^ 32 := by
  have h := leNat_lt (d.take 4).reverse
  have hl : (d.take 4).reverse.length ≤ 4 := by simp
  have hp : 256 ^ (d.take 4).reverse.length ≤ 256 ^ 4 := Nat.pow_le_pow_right (by omega) hl
  unfold announced beNat
  omega

theorem cgoString_bytes {packet : Bytes} (h : packet.length < 2 ^ 32) : (cgoString packet).bytes = packet := by
  have hl : (cgoString packet).length.toNat = packet.length := by
    simp [cgoString]
    omega
  rw [BinarySafeString.bytes, hl]
  simp [cgoString]

theorem recvChecked_body {what : String} {n : Nat} {p' : Proc} (h : recvLength p = .ok n p') (hn : n ≤ maxPacket) :
    recvChecked what p = recvBody n p' := by
  have hle : ¬n > maxPacket := by omega
  simp only [recvChecked, bind_of_ok h, if_neg hle]

theorem recvChecked_raise {what : String} {n : Nat} {p' : Proc} (h : recvLength p = .ok n p') (hn : maxPacket < n) :
    recvChecked what p = .error (.exn what) p' := by
  simp only [recvChecked, bind_of_ok h, if_pos hn]
  rfl

/-- The readers that check the length receive. -/
theorem recvChecked_receives (what : String) : Receives (recvChecked what) where
  accepts := by
    intro p d hd hl hm
    obtain ⟨p₁, e₁, d₁, -⟩ := recvLength_ok hd (by omega)
    have hlt := announced_lt d
    have hle : announced d ≤ (d.drop 4).length := by simp; omega
    obtain ⟨p₂, e₂, d₂⟩ := recvBody_ok d₁ hle
    refine ⟨.ofBlock ((d.drop 4).take (announced d)), p₂, ?_, ?_, ?_⟩
    · rw [recvChecked_body e₁ hm, e₂]
    · exact BinarySafeString.ofBlock_bytes (by simp; omega)
    · rw [d₂, List.drop_drop]
  truncated := by
    intro p d hd h
    by_cases h4 : d.length < 4
    · obtain ⟨p₁, e₁, -⟩ := recvLength_eof hd h4
      exact ⟨_, p₁, by rw [recvChecked, bind_of_error e₁]⟩
    obtain ⟨hm, hl⟩ := h.resolve_left h4
    obtain ⟨p₁, e₁, d₁, -⟩ := recvLength_ok hd (by omega)
    have hlt : (d.drop 4).length < announced d := by simp; omega
    obtain ⟨p₂, e₂⟩ := recvBody_eof d₁ hlt
    exact ⟨_, p₂, by rw [recvChecked_body e₁ hm, e₂]⟩
  refuses := by
    intro p d hd hl hm
    obtain ⟨p₁, e₁, d₁, m₁⟩ := recvLength_ok hd hl
    exact ⟨what, p₁, recvChecked_raise e₁ hm, d₁, m₁⟩

/-- `ReadB` behind its header. -/
theorem readB_body {p₁ : Proc} (h : readFull 4 p = .ok (d.take 4) p₁) (hm : announced d ≤ maxPacket) :
    readB p = (readFull (announced d) >>= fun packet => pure (cgoString packet))
      { p₁ with mallocs := p₁.mallocs ++ [announced d] } := by
  have hle : ¬beNat (d.take 4) > maxPacket := by
    show ¬announced d > maxPacket
    omega
  simp only [readB, bind_of_ok h, if_neg hle]
  rfl

theorem readB_receives : Receives readB where
  accepts := by
    intro p d hd hl hm
    obtain ⟨p₁, e₁, d₁, -⟩ := readFull_ok hd (by omega : 4 ≤ d.length)
    have hlt := announced_lt d
    have hle : announced d ≤ (d.drop 4).length := by simp; omega
    obtain ⟨p₂, e₂, d₂, -⟩ := readFull_ok (p := { p₁ with mallocs := p₁.mallocs ++ [announced d] }) d₁ hle
    refine ⟨cgoString ((d.drop 4).take (announced d)), p₂, ?_, ?_, ?_⟩
    · rw [readB_body e₁ hm, bind_of_ok e₂]
      rfl
    · exact cgoString_bytes (by simp; omega)
    · rw [d₂, List.drop_drop]
  truncated := by
    intro p d hd h
    by_cases h4 : d.length < 4
    · obtain ⟨what, p₁, e₁⟩ := readFull_eof hd h4
      exact ⟨what, p₁, by rw [readB, bind_of_error e₁]⟩
    obtain ⟨hm, hl⟩ := h.resolve_left h4
    obtain ⟨p₁, e₁, d₁, -⟩ := readFull_ok hd (by omega : 4 ≤ d.length)
    have hlt : (d.drop 4).length < announced d := by simp; omega
    obtain ⟨what, p₂, e₂⟩ := readFull_eof (p := { p₁ with mallocs := p₁.mallocs ++ [announced d] }) d₁ hlt
    exact ⟨what, p₂, by rw [readB_body e₁ hm, bind_of_error e₂]⟩
  refuses := by
    intro p d hd hl hm
    obtain ⟨p₁, e₁, d₁, m₁⟩ := readFull_ok hd hl
    have hgt : beNat (d.take 4) > maxPacket := hm
    refine ⟨"Memory Boom!", p₁, ?_, d₁, m₁⟩
    simp only [readB, bind_of_ok e₁, if_pos hgt]
    rfl

/-- Header and body are sent one after the other: `WriteB`, and `send_length_and_packet` behind its check. -/
theorem writeB_sends : Sends writeB where
  frames := by
    intro b p p' h
    obtain ⟨u, q, h₁, h₂⟩ := of_bind_eq_ok h
    rw [sendBytes_frames h₂, sendBytes_frames h₁, List.append_assoc, frame, BinarySafeString.length_bytes]
  succeeds := by
    intro b p n _ hw
    obtain ⟨p₁, e₁, -, w₁⟩ := sendBytes_willing (beBytes 4 b.length.toNat) (p := p) (n := b.length.toNat + n)
      (by rwa [length_beBytes, ← Nat.add_assoc])
    obtain ⟨p₂, e₂, -, w₂⟩ := sendBytes_willing b.bytes (p := p₁) (n := n)
      (by rwa [BinarySafeString.length_bytes])
    exact ⟨p₂, by rw [writeB, bind_of_ok e₁, e₂], w₂⟩

theorem sendLengthAndPacket_sends : Sends sendLengthAndPacket where
  frames := by
    intro b p p' h
    unfold sendLengthAndPacket at h
    split at h
    · cases h
    · exact writeB_sends.frames h
  succeeds := by
    intro b p n hb hw
    have hle : ¬b.length.toNat > maxPacket := by omega
    rw [sendLengthAndPacket, if_neg hle]
    exact writeB_sends.succeeds hb hw

end

/-! ## Runs -/

/-- The body of every packet. -/
def bodies (bs : List BinarySafeString) : List Bytes := bs.map BinarySafeString.bytes

@[simp] theorem bodies_nil : bodies [] = [] := rfl

@[simp] theorem bodies_cons (b : BinarySafeString) (bs : List BinarySafeString) :
    bodies (b :: bs) = b.bytes :: bodies bs := rfl

/-- Every packet is at most 64 MiB long. -/
def Fits (bs : List BinarySafeString) : Prop := ∀ b ∈ bs, b.length.toNat ≤ maxPacket

section
variable {send : BinarySafeString → Io Unit} {recv : Io BinarySafeString} {p : Proc}

theorem sendAll_frames (S : Sends send) (bs : List BinarySafeString) {p p' : Proc} (h : sendAll send bs p = .ok () p') :
    p'.sock.sent = p.sock.sent ++ stream 4 (bodies bs) := by
  induction bs generalizing p with
  | nil =>
    cases h
    simp [bodies]
  | cons b bs ih =>
    obtain ⟨u, q, h₁, h₂⟩ := of_bind_eq_ok h
    rw [ih h₂, S.frames h₁, List.append_assoc, bodies_cons, stream_cons]

theorem sendAll_willing (S : Sends send) (bs : List BinarySafeString) (hb : Fits bs) {p : Proc}
    (hw : willing p.sock.outp (stream 4 (bodies bs)).length = true) : ∃ p', sendAll send bs p = .ok () p' := by
  induction bs generalizing p with
  | nil => exact ⟨p, rfl⟩
  | cons b bs ih =>
    have hlen : (stream 4 (bodies (b :: bs))).length = 4 + b.length.toNat + (stream 4 (bodies bs)).length := by
      rw [bodies_cons, stream_cons, List.length_append, length_frame, BinarySafeString.length_bytes]
    rw [hlen] at hw
    obtain ⟨p₁, e₁, w₁⟩ := S.succeeds (hb b (by simp)) hw
    obtain ⟨p₂, e₂⟩ := ih (fun c hc => hb c (by simp [hc])) w₁
    exact ⟨p₂, by rw [sendAll, bind_of_ok e₁, e₂]⟩

/-- The announced length of a whole frame is the length of its body. -/
theorem announced_frame {body : Bytes} (h : body.length ≤ maxPacket) (rest : Bytes) :
    announced (frame 4 body ++ rest) = body.length := by
  have hlt : body.length < 256 ^ 4 := by
    simp only [maxPacket] at h
    omega
  rw [announced, take_frame, beNat_beBytes 4 _ hlt]

/-- One frame at the head of the stream. -/
theorem recv_frame (R : Receives recv) {body rest : Bytes} (h : body.length ≤ maxPacket)
    (hd : delivered p.sock.inp = frame 4 body ++ rest) :
    ∃ b p', recv p = .ok b p' ∧ b.bytes = body ∧ delivered p'.sock.inp = rest := by
  have ha := announced_frame h rest
  obtain ⟨b, p', e, hb, hr⟩ := R.accepts hd (by rw [ha]; simp) (by omega)
  refine ⟨b, p', e, ?_, ?_⟩
  · rw [hb, ha, slice, drop_frame, List.take_left]
  · rw [hr, ha, ← List.drop_drop, drop_frame, List.drop_left]

/-- As many calls as there are frames return their bodies, in order, and leave what is behind. -/
theorem recvMany_stream (R : Receives recv) (bs : List Bytes) (hb : ∀ b ∈ bs, b.length ≤ maxPacket) (rest : Bytes)
    {p : Proc} (hd : delivered p.sock.inp = stream 4 bs ++ rest) :
    ∃ got p', recvMany recv bs.length p = .ok got p' ∧ bodies got = bs ∧ delivered p'.sock.inp = rest := by
  induction bs generalizing p with
  | nil => exact ⟨[], p, rfl, rfl, by simpa using hd⟩
  | cons b bs ih =>
    rw [stream_cons, List.append_assoc] at hd
    obtain ⟨x, p₁, e₁, hx, d₁⟩ := recv_frame R (hb b (by simp)) hd
    obtain ⟨got, p₂, e₂, hg, d₂⟩ := ih (fun c hc => hb c (by simp [hc])) d₁
    refine ⟨x :: got, p₂, ?_, ?_, d₂⟩
    · rw [List.length_cons, recvMany, bind_of_ok e₁, bind_of_ok e₂]
      rfl
    · rw [bodies_cons, hx, hg]

/-- A frame that is cut anywhere is no packet. -/
theorem recv_cut (R : Receives recv) {body rest : Bytes} (h : body.length ≤ maxPacket) {cut : Nat}
    (hc : cut < 4 + body.length) (hd : delivered p.sock.inp = (frame 4 body ++ rest).take cut) :
    ∃ what p', recv p = .error (.exn what) p' := by
  have hl : ((frame 4 body ++ rest).take cut).length = cut := by simp; omega
  apply R.truncated hd
  rw [hl]
  by_cases h4 : cut < 4
  · exact .inl h4
  · have ha : announced ((frame 4 body ++ rest).take cut) = body.length := by
      rw [← announced_frame h rest, announced, announced, List.take_take, Nat.min_eq_left (by omega)]
    exact .inr ⟨by omega, by omega⟩

/-- The stream ends inside some frame: the calls before it return, the call on it fails. -/
theorem recvMany_cut (R : Receives recv) (bs : List Bytes) (hb : ∀ b ∈ bs, b.length ≤ maxPacket) {cut : Nat}
    (hc : cut < (stream 4 bs).length) {p : Proc} (hd : delivered p.sock.inp = (stream 4 bs).take cut) :
    ∃ k got p', k < bs.length ∧ recvMany recv k p = .ok got p' ∧ bodies got = bs.take k ∧
      ∃ what p'', recv p' = .error (.exn what) p'' := by
  induction bs generalizing p cut with
  | nil => simp at hc
  | cons b bs ih =>
    rw [stream_cons] at hc hd
    have hbl := hb b (by simp)
    by_cases hin : cut < 4 + b.length
    · obtain ⟨what, p', e⟩ := recv_cut R hbl hin hd
      exact ⟨0, [], p, by simp, rfl, rfl, what, p', e⟩
    · have hsplit : (frame 4 b ++ stream 4 bs).take cut = frame 4 b ++ (stream 4 bs).take (cut - (4 + b.length)) := by
        rw [List.take_append, List.take_of_length_le (by simp; omega), length_frame]
      rw [hsplit] at hd
      rw [List.length_append, length_frame] at hc
      obtain ⟨x, p₁, e₁, hx, d₁⟩ := recv_frame R hbl hd
      obtain ⟨k, got, p₂, hk, e₂, hg, hfail⟩ := ih (fun c hm => hb c (by simp [hm])) (by omega) d₁
      refine ⟨k + 1, x :: got, p₂, by simpa using hk, ?_, ?_, hfail⟩
      · rw [recvMany, bind_of_ok e₁, bind_of_ok e₂]
        rfl
      · rw [bodies_cons, hx, hg, List.take_succ_cons]

end

/-- The two implementations of the format. -/
inductive Peer where
  | native
  | go
deriving DecidableEq

def Peer.send : Peer → BinarySafeString → Io Unit
  | .native => sendLengthAndPacket
  | .go => writeB

def Peer.recv : Peer → Io BinarySafeString
  | .native => recvLengthAndPacket
  | .go => readB

theorem Peer.sends : ∀ a : Peer, Sends a.send
  | .native => sendLengthAndPacket_sends
  | .go => writeB_sends

theorem Peer.receives : ∀ b : Peer, Receives b.recv
  | .native => recvChecked_receives _
  | .go => readB_receives

theorem length_bodies (bs : List BinarySafeString) : (bodies bs).length = bs.length := by simp [bodies]

theorem Fits.bodies {bs : List BinarySafeString} (h : Fits bs) : ∀ c ∈ bodies bs, c.length ≤ maxPacket := by
  intro c hc
  obtain ⟨b, hb, rfl⟩ := List.mem_map.1 hc
  rw [BinarySafeString.length_bytes]
  exact h b hb

/-- For any two of the implementations, any packets of at most 64 MiB and any split of the stream on either side: the
sends succeed on a transport that takes the bytes; when they do, as many receives return the packets in order and stop
behind the last; when the stream is cut inside a packet, the receives before it return and the one on it fails. A
receive on any stream that ends inside its header or body fails, and one that finds more than 64 MiB announced is
refused, with the body still in the stream and nothing allocated. -/
theorem framing_lossless (a b : Peer) (ps : List BinarySafeString) (hps : Fits ps) (p : Proc) :
    (willing p.sock.outp (stream 4 (bodies ps)).length = true → ∃ p', sendAll a.send ps p = .ok () p') ∧
    (∀ p', sendAll a.send ps p = .ok () p' → ∃ wire, p'.sock.sent = p.sock.sent ++ wire ∧
      (∀ q rest, delivered q.sock.inp = wire ++ rest → ∃ got q', recvMany b.recv ps.length q = .ok got q' ∧
        bodies got = bodies ps ∧ delivered q'.sock.inp = rest) ∧
      (∀ q cut, cut < wire.length → delivered q.sock.inp = wire.take cut →
        ∃ k got q', k < ps.length ∧ recvMany b.recv k q = .ok got q' ∧ bodies got = (bodies ps).take k ∧
          ∃ what q'', b.recv q' = .error (.exn what) q'')) ∧
    (∀ q, let d := delivered q.sock.inp
      (d.length < 4 ∨ announced d ≤ maxPacket ∧ d.length < 4 + announced d → ∃ what q', b.recv q = .error (.exn what) q') ∧
      (4 ≤ d.length → maxPacket < announced d →
        ∃ what q', b.recv q = .error (.exn what) q' ∧ delivered q'.sock.inp = d.drop 4 ∧ q'.mallocs = q.mallocs)) := by
  refine ⟨sendAll_willing a.sends ps hps, ?_, ?_⟩
  · intro p' hsend
    refine ⟨stream 4 (bodies ps), sendAll_frames a.sends ps hsend, ?_, ?_⟩
    · intro q rest hd
      have h := recvMany_stream b.receives (bodies ps) hps.bodies rest hd
      rwa [length_bodies] at h
    · intro q cut hc hd
      have h := recvMany_cut b.receives (bodies ps) hps.bodies hc hd
      rwa [length_bodies] at h
  · intro q
    exact ⟨b.receives.truncated rfl, b.receives.refuses rfl⟩

/-- A packet of two bytes and an empty one, sent by the native server through three short writes and a signal. -/
theorem framing_lossless_pair : ∃ p', sendAll Peer.native.send [.ofBlock [7, 8], .ofBlock []]
    ⟨⟨[], [.wrote 3, .eintr, .wrote 1, .wrote 1, .wrote 1, .wrote 4, .wrote 1, .wrote 1, .wrote 1, .wrote 1, .wrote 1], []⟩, []⟩ =
      .ok () p' := by
  refine (framing_lossless .native .go [.ofBlock [7, 8], .ofBlock []] ?_ _).1 (by decide)
  intro b hb
  simp only [List.mem_cons, List.not_mem_nil, or_false] at hb
  rcases hb with rfl | rfl <;> decide

/-! ## The hand-written readers -/

abbrev Outcome (α : Type) := EStateM.Result Stop Proc α

/-- Two readers did the same: they returned the same body and left the same state, or both threw and left the same
state. The state counts what was received and what was allocated. -/
def Alike (r : Outcome BinarySafeString) (r' : Outcome (Option BinarySafeString)) : Prop :=
  (∃ b p, r = .ok b p ∧ r' = .ok (some b) p) ∨ ∃ what what' p, r = .error (.exn what) p ∧ r' = .error (.exn what') p

/-- In this state a reader does what `recv_length_and_packet` does. -/
def Agrees (reader : Io (Option BinarySafeString)) (p : Proc) : Prop := Alike (recvLengthAndPacket p) (reader p)

/-- A reader without an answer of its own to any length. -/
def always (reader : Io BinarySafeString) : Io (Option BinarySafeString) := do
  let b ← reader
  return some b

section
variable {p : Proc}

/-- A receive throws or returns; it never leaves its buffer. -/
theorem recvBytes_cases (n : Nat) (p : Proc) :
    (∃ bs p', recvBytes n p = .ok bs p') ∨ ∃ p', recvBytes n p = .error (.exn "recvn failed.") p' := by
  rcases Nat.lt_or_ge (delivered p.sock.inp).length n with h | h
  · obtain ⟨p', e, -⟩ := recvBytes_eof rfl h
    exact .inr ⟨p', e⟩
  · obtain ⟨p', e, -, -⟩ := recvBytes_ok rfl h
    exact .inl ⟨_, p', e⟩

theorem recvBody_alike (n : Nat) (p : Proc) : Alike (recvBody n p) (always (recvBody n) p) := by
  rcases recvBytes_cases n { p with mallocs := p.mallocs ++ [n] } with ⟨bs, p', e⟩ | ⟨p', e⟩
  · have hb : recvBody n p = .ok (.ofBlock bs) p' := (allocate_bind ..).trans (bind_of_ok e)
    exact .inl ⟨_, p', hb, bind_of_ok hb⟩
  · have hb : recvBody n p = .error (.exn "recvn failed.") p' := (allocate_bind ..).trans (bind_of_error e)
    exact .inr ⟨_, _, p', hb, bind_of_error hb⟩

theorem recvBodyOrFree_alike (n : Nat) (p : Proc) : Alike (recvBody n p) (recvBodyOrFree n p) := by
  rcases recvBytes_cases n { p with mallocs := p.mallocs ++ [n] } with ⟨bs, p', e⟩ | ⟨p', e⟩
  · have hf : orRaise "RecvnAndFree failed." (recvBytes n) { p with mallocs := p.mallocs ++ [n] } = .ok bs p' := by
      rw [orRaise, e]
    exact .inl ⟨.ofBlock bs, p', (allocate_bind ..).trans (bind_of_ok e), (allocate_bind ..).trans (bind_of_ok hf)⟩
  · have hf : orRaise "RecvnAndFree failed." (recvBytes n) { p with mallocs := p.mallocs ++ [n] } =
        .error (.exn "RecvnAndFree failed.") p' := by
      rw [orRaise, e]
    exact .inr ⟨_, _, p', (allocate_bind ..).trans (bind_of_error e), (allocate_bind ..).trans (bind_of_error hf)⟩

/-- A reader that gets its length like the others agrees where the header is incomplete, and otherwise if it goes on
like them. -/
theorem agrees_bind {k : Nat → Io (Option BinarySafeString)}
    (hk : 4 ≤ (delivered p.sock.inp).length → ∀ p', recvLength p = .ok (announced (delivered p.sock.inp)) p' →
      Alike ((if announced (delivered p.sock.inp) > maxPacket then
          raise refuseRecv
        else recvBody (announced (delivered p.sock.inp))) p') (k (announced (delivered p.sock.inp)) p')) :
    Agrees (recvLength >>= k) p := by
  by_cases h4 : (delivered p.sock.inp).length < 4
  · obtain ⟨p', e, -⟩ := recvLength_eof rfl h4
    exact .inr ⟨_, _, p', bind_of_error e, bind_of_error e⟩
  · obtain ⟨p', e, -, -⟩ := recvLength_ok rfl (by omega : 4 ≤ (delivered p.sock.inp).length)
    rw [Agrees, recvLengthAndPacket, recvChecked, bind_of_ok e, bind_of_ok e]
    exact hk (by omega) p' e

/-- `doAuth`'s reader is the same function up to the text. -/
theorem recvAuthReply_agrees (p : Proc) : Agrees (always recvAuthReply) p := by
  rw [always, recvAuthReply, recvChecked, bind_assoc]
  apply agrees_bind
  intro _ p' _
  split
  · exact .inr ⟨_, _, p', rfl, rfl⟩
  · exact recvBody_alike _ p'

theorem recvDnsReply_agrees (h : announced (delivered p.sock.inp) ≤ maxPacket) : Agrees (always recvDnsReply) p := by
  rw [always, recvDnsReply, bind_assoc]
  apply agrees_bind
  intro _ p' _
  rw [if_neg (by omega)]
  exact recvBody_alike _ p'

theorem recvDataFrame_agrees (h : announced (delivered p.sock.inp) ≤ maxPacket)
    (h0 : 4 ≤ (delivered p.sock.inp).length → announced (delivered p.sock.inp) ≠ 0) : Agrees recvDataFrame p := by
  apply agrees_bind
  intro h4 p' _
  rw [if_neg (by omega), if_neg (h0 h4)]
  exact recvBodyOrFree_alike _ p'

/-- A length of 0 ends the session: the header is taken, nothing is allocated and no packet returned. -/
theorem recvDataFrame_zero (hl : 4 ≤ (delivered p.sock.inp).length) (h0 : announced (delivered p.sock.inp) = 0) :
    ∃ p', recvDataFrame p = .ok none p' ∧ delivered p'.sock.inp = (delivered p.sock.inp).drop 4 ∧
      p'.mallocs = p.mallocs := by
  obtain ⟨p', e, d', m'⟩ := recvLength_ok rfl hl
  refine ⟨p', ?_, d', m'⟩
  rw [recvDataFrame, bind_of_ok e, if_pos h0]
  rfl

end

/-- For every stream: `doAuth`'s reader accepts the frames of `recv_length_and_packet` with the same bodies and refuses
the others as early. So do the readers of `dns_pkgs` and `passData` on every announced length up to 64 MiB, but for a
length of 0, which `passData` takes for the end of the session. -/
theorem frame_readers_agree (p : Proc) : let d := delivered p.sock.inp
    Agrees (always recvAuthReply) p ∧
    (announced d ≤ maxPacket → Agrees (always recvDnsReply) p) ∧
    (announced d ≤ maxPacket → (4 ≤ d.length → announced d ≠ 0) → Agrees recvDataFrame p) ∧
    (4 ≤ d.length → announced d = 0 → ∃ p', recvDataFrame p = .ok none p' ∧ delivered p'.sock.inp = d.drop 4 ∧
      p'.mallocs = p.mallocs) :=
  ⟨recvAuthReply_agrees p, recvDnsReply_agrees, recvDataFrame_agrees, recvDataFrame_zero⟩

/-- An empty packet is returned by `recv_length_and_packet` and ends the session in `passData`. -/
theorem empty_frame_ends_session : ¬Agrees recvDataFrame ⟨⟨[.data [0, 0, 0, 0]], [], []⟩, []⟩ := by
  obtain ⟨p', e, -, -⟩ := @recvDataFrame_zero ⟨⟨[.data [0, 0, 0, 0]], [], []⟩, []⟩ (by decide) (by decide)
  rintro (⟨b, q, -, h⟩ | ⟨what, what', q, -, h⟩)
  · rw [e] at h
    cases h
  · rw [e] at h
    cases h

/-- The tunnel of `Native/Relay.lean` is what a socket with its bytes delivers. -/
theorem recvLengthAndPacket_tunnel {p : Proc} {body rest : Bytes}
    (h : Tunnel.recvLengthAndPacket (delivered p.sock.inp) = .ok (body, rest)) :
    ∃ b p', recvLengthAndPacket p = .ok b p' ∧ b.bytes = body ∧ delivered p'.sock.inp = rest := by
  obtain ⟨⟨hdr, tunnel⟩, h1, h⟩ := bind_eq_ok.1 h
  simp only [Tunnel.recvn] at h1
  split at h1
  swap
  · cases h1
  next h4 =>
  cases h1
  simp only at h
  split at h
  · cases h
  next hm =>
  simp only [Tunnel.recvn] at h
  split at h
  swap
  · cases h
  next hl =>
  cases h
  have hl' : 4 + announced (delivered p.sock.inp) ≤ (delivered p.sock.inp).length := by
    rw [List.length_drop] at hl
    unfold announced
    omega
  obtain ⟨b, p', e, hb, hd⟩ := (recvChecked_receives _).accepts rfl hl' (by unfold announced maxPacket; omega)
  exact ⟨b, p', e, by rw [hb]; rfl, by rw [hd, List.drop_drop]; rfl⟩

end SnakeSocks.NetLib
