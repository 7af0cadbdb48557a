import SnakeSocks.Native.Socks5

/-!
# CONNECT requests as RFC 1928 writes them, and what `connect_pkgs` makes of them

`Request` is every CONNECT there is: four bytes, sixteen bytes, or a name of 1 to 255 bytes, and a port. `connect_pkgs`
gets the length byte of a name from a signed `char` and the name itself through a C string, so a request is read exactly
when its name is shorter than 128 bytes and has no NUL in it (`connect_exact_iff`).
-/

namespace SnakeSocks.Socks5

open ByteLib CMem Sio
open Effects (bind_of_ok bind_of_error of_bind_eq_ok)

/-! ## Requests -/

inductive Target where
  | ipv4 (addr : Vector UInt8 4)
  | ipv6 (addr : Vector UInt8 16)
  | domain (name : Bytes) (size : 1 ≤ name.length ∧ name.length ≤ 255)

namespace Target

def atyp : Target → UInt8
  | ipv4 _ => 1
  | ipv6 _ => 4
  | domain _ _ => 3

def type : Target → AddrT
  | ipv4 _ => .ipv4
  | ipv6 _ => .ipv6
  | domain _ _ => .domain

/-- The bytes of the address, or of the name. -/
def data : Target → Bytes
  | ipv4 addr => addr.toList
  | ipv6 addr => addr.toList
  | domain name _ => name

/-- DST.ADDR: a name has its length in front. -/
def field : Target → Bytes
  | domain name _ => UInt8.ofNat name.length :: name
  | target => target.data

end Target

structure Request where
  rsv : UInt8
  target : Target
  port : UInt16

namespace Request

def bytes (r : Request) : Bytes := [5, 1, r.rsv, r.target.atyp] ++ r.target.field ++ beBytes 2 r.port.toNat

/-- The address that was asked for. -/
def info (r : Request) : AddrInfo := ⟨r.target.type, r.target.data, r.port⟩

/-- The reply of `connect_pkgs`. -/
def reply (r : Request) : Bytes := r.bytes.set 1 0

end Request

/-- `connect_pkgs` took the request and nothing behind it, returned its address and sent the reply. -/
def ReadExactly (junk : Nat → UInt8) (s : Sock) (r : Request) (rest : Bytes) : Prop :=
  ∃ s', connectPkgs junk s = .ok r.info s' ∧ delivered s'.inp = rest ∧ s'.sent = s.sent ++ r.reply

/-- A name `connect_pkgs` gets the length and the end of right. -/
def Target.Plain : Target → Prop
  | .domain name _ => name.length < 128 ∧ 0 ∉ name
  | _ => True

instance : ∀ t : Target, Decidable t.Plain
  | .ipv4 _ | .ipv6 _ => inferInstanceAs (Decidable True)
  | .domain _ _ => inferInstanceAs (Decidable (_ ∧ _))

/-! ## Reading one -/

section
variable {s : Sock} {r : Request} {rest : Bytes} {junk : Nat → UInt8}

theorem Request.getD_bytes (r : Request) (rest : Bytes) : (r.bytes ++ rest).getD 0 0 = 5 ∧ (r.bytes ++ rest).getD 1 0 = 1 ∧
    (r.bytes ++ rest).getD 3 0 = r.target.atyp := ⟨rfl, rfl, rfl⟩

/-- The four fixed bytes, the address and the port. -/
theorem Request.length_bytes (r : Request) : r.bytes.length = 6 + r.target.field.length := by
  simp [Request.bytes]
  omega

theorem netPort_beBytes (port : UInt16) : netPort (beBytes 2 port.toNat) = port := by
  rw [netPort, beNat_beBytes 2 _ port.toNat_lt, UInt16.ofNat_toNat]

/-- A field behind the bytes of `a`. -/
theorem slice_field (a b c : Bytes) {off n : Nat} (ha : a.length = off) (hb : b.length = n) : slice (a ++ b ++ c) off n = b := by
  rw [slice, List.append_assoc, List.drop_left' ha, List.take_left' hb]

/-- A length byte below 128, if there is one. -/
def Target.Short : Target → Prop
  | .domain name _ => name.length < 128
  | _ => True

/-- What is left of the address: a name ends at its first NUL. -/
def Target.stored : Target → Bytes
  | .domain name _ => cString name
  | target => target.data

theorem toNat_length_byte {name : Bytes} (size : 1 ≤ name.length ∧ name.length ≤ 255) :
    (UInt8.ofNat name.length).toNat = name.length := by
  simp
  omega

theorem Request.getD_domain {name : Bytes} {size : 1 ≤ name.length ∧ name.length ≤ 255} (h : r.target = .domain name size) :
    (r.bytes ++ rest).getD 4 0 = UInt8.ofNat name.length := by
  rw [Request.bytes, h]
  rfl

theorem requestLen_bytes (h : r.target.Short) : requestLen (r.bytes ++ rest) = some r.bytes.length := by
  have hl := r.length_bytes
  rw [requestLen, (r.getD_bytes rest).2.2, hl]
  cases ht : r.target with
  | ipv4 addr => simp [Target.atyp, Target.field, Target.data]
  | ipv6 addr => simp [Target.atyp, Target.field, Target.data]
  | domain name size =>
    rw [ht] at h
    have hn : name.length < 128 := h
    rw [Request.getD_domain ht, toNat_length_byte size]
    simp [Target.atyp, Target.field, hn]
    omega

theorem Request.slice_target (r : Request) (rest : Bytes) :
    slice (r.bytes ++ rest) 4 r.target.field.length = r.target.field := by
  rw [Request.bytes, List.append_assoc]
  exact slice_field [5, 1, r.rsv, r.target.atyp] r.target.field _ rfl rfl

theorem Request.slice_port (r : Request) (rest : Bytes) :
    slice (r.bytes ++ rest) (4 + r.target.field.length) 2 = beBytes 2 r.port.toNat :=
  slice_field ([5, 1, r.rsv, r.target.atyp] ++ r.target.field) _ rest (by simp; omega) (by simp)

theorem addrOf_bytes (r : Request) (rest : Bytes) : addrOf (r.bytes ++ rest) = ⟨r.target.type, r.target.stored, r.port⟩ := by
  have hip := r.slice_target rest
  have hport := r.slice_port rest
  rw [addrOf, (r.getD_bytes rest).2.2]
  cases ht : r.target with
  | ipv4 addr =>
    rw [ht, show (Target.ipv4 addr).field.length = 4 from addr.length_toList] at hip hport
    rw [hip, hport, netPort_beBytes]
    rfl
  | ipv6 addr =>
    rw [ht, show (Target.ipv6 addr).field.length = 16 from addr.length_toList] at hip hport
    rw [hip, hport, netPort_beBytes]
    rfl
  | domain name size =>
    have hname : slice (r.bytes ++ rest) 5 name.length = name := by
      rw [Request.bytes, ht, List.append_assoc]
      exact slice_field [5, 1, r.rsv, 3, UInt8.ofNat name.length] name _ rfl rfl
    have hlen : 4 + (Target.domain name size).field.length = 5 + name.length := by
      simp only [Target.field, List.length_cons]
      omega
    rw [ht, hlen] at hport
    rw [Request.getD_domain ht, toNat_length_byte size]
    simp only [hname, hport, netPort_beBytes]
    rfl

theorem plain_iff (t : Target) : t.Plain ↔ t.Short ∧ t.stored = t.data := by
  cases t with
  | ipv4 addr => exact iff_of_true trivial ⟨trivial, rfl⟩
  | ipv6 addr => exact iff_of_true trivial ⟨trivial, rfl⟩
  | domain name size => exact and_congr_right' cString_eq_self_iff.symm

/-- Only a request of known length is accepted. -/
theorem short_of_requestLen {m : Nat} (h : requestLen (r.bytes ++ rest) = some m) : r.target.Short := by
  cases ht : r.target with
  | ipv4 addr => trivial
  | ipv6 addr => trivial
  | domain name size =>
    rw [requestLen, (r.getD_bytes rest).2.2, ht, Request.getD_domain ht, toNat_length_byte size] at h
    by_contra hlong
    have hn : ¬name.length < 128 := hlong
    simp [Target.atyp, hn] at h

theorem Request.parsable (h : r.target.Short) : Parsable (r.bytes ++ rest) r.bytes.length :=
  ⟨requestLen_bytes h, by simp, (r.getD_bytes rest).1⟩

/-- For every CONNECT request, whatever stands behind it in the stream and however the stream is split: `connect_pkgs`
takes exactly the request, returns the address in it and sends it back with byte 1 cleared, exactly when the peer
takes the reply and a name is shorter than 128 bytes and free of NUL. -/
theorem connect_exact_iff (junk : Nat → UInt8) (s : Sock) (r : Request) (rest : Bytes)
    (hd : delivered s.inp = r.bytes ++ rest) :
    ReadExactly junk s r rest ↔ takes s.outp r.bytes.length = true ∧ r.target.Plain := by
  have htake : (r.bytes ++ rest).take r.bytes.length = r.bytes := List.take_left
  have hdrop : (r.bytes ++ rest).drop r.bytes.length = rest := List.drop_left
  constructor
  · rintro ⟨s', e, -, -⟩
    obtain ⟨m, ⟨hm, -, -⟩, -, hinfo⟩ := connectPkgs_accepted hd e
    have hshort := short_of_requestLen hm
    rw [addrOf_bytes, Request.info, AddrInfo.mk.injEq] at hinfo
    refine ⟨?_, (plain_iff _).2 ⟨hshort, hinfo.2.1.symm⟩⟩
    by_contra ht
    obtain ⟨s₁, -, o₁, -, e₁⟩ := @connectPkgs_complete s _ junk _ hd (Request.parsable hshort) rfl
    obtain ⟨s₂, -, e₂, -, -⟩ := @sendnEx_fails r.reply s₁ (by
      rw [o₁, Request.reply, List.length_set]
      exact eq_false_of_ne_true ht)
    rw [e₁, htake, ← Request.reply, bind_of_error e₂] at e
    cases e
  · rintro ⟨ht, hplain⟩
    obtain ⟨hshort, hstored⟩ := (plain_iff _).1 hplain
    obtain ⟨s', e, hrest, hsent⟩ := @connectPkgs_ok s _ junk _ hd (Request.parsable hshort) rfl ht
    rw [addrOf_bytes, hstored] at e
    rw [hdrop] at hrest
    rw [htake] at hsent
    exact ⟨s', e, hrest, hsent⟩

end

/-- A CONNECT to `a.org:80` with a byte of data behind it. -/
theorem connect_exact_iff_short_name : ReadExactly (fun _ => 0)
    ⟨[.data [5, 1, 0, 3, 5, 97, 46, 111], .data [114, 103, 0, 80, 71]], [.wrote 12], []⟩
    ⟨0, .domain [97, 46, 111, 114, 103] (by decide), 80⟩ [71] :=
  (connect_exact_iff _ _ _ _ rfl).2 (by decide)

/-- A name of two bytes, the first of them NUL, is returned as the empty name. -/
theorem nul_in_name_cuts : ¬∀ (s : Sock) (r : Request) (rest : Bytes), delivered s.inp = r.bytes ++ rest →
    takes s.outp r.bytes.length = true → ReadExactly (fun _ => 0) s r rest := by
  intro hall
  obtain ⟨s', e, -, -⟩ := hall ⟨[.data [5, 1, 0, 3, 2, 0, 97, 0, 80]], [.wrote 9], []⟩ ⟨0, .domain [0, 97] (by decide), 80⟩ []
    rfl rfl
  obtain ⟨m, -, -, hinfo⟩ := connectPkgs_accepted rfl e
  exact absurd hinfo (by decide)

/-! ## Names -/

/-- The name `unpackConnectionPacket` stores has no NUL and fits the buffer it came from. -/
theorem unpack_domain {junk : Nat → UInt8} {buf : Cells} {s s' : Sock} {cmd atyp : UInt8} {a : AddrInfo}
    (h : unpackConnectionPacket junk buf s = .ok (cmd, atyp, a) s') (ht : a.type = .domain) :
    0 ∉ a.data ∧ a.data.length < buf.length := by
  unfold unpackConnectionPacket at h
  obtain ⟨ver, s₁, -, h⟩ := of_bind_eq_ok h
  split at h
  · cases h
  obtain ⟨c, s₂, -, h⟩ := of_bind_eq_ok h
  obtain ⟨t, s₃, -, h⟩ := of_bind_eq_ok h
  split at h
  · obtain ⟨bs, s₄, -, h⟩ := of_bind_eq_ok h
    obtain ⟨p, s₅, -, h⟩ := of_bind_eq_ok h
    cases h
    cases ht
  split at h
  · obtain ⟨bs, s₄, -, h⟩ := of_bind_eq_ok h
    obtain ⟨p, s₅, -, h⟩ := of_bind_eq_ok h
    cases h
    cases ht
  split at h
  · obtain ⟨len, s₄, -, h⟩ := of_bind_eq_ok h
    obtain ⟨p, s₅, -, h⟩ := of_bind_eq_ok h
    obtain ⟨name, s₆, hname, h⟩ := of_bind_eq_ok h
    obtain ⟨b₁, s₇, hb₁, h⟩ := of_bind_eq_ok h
    obtain ⟨b₂, s₈, hb₂, h⟩ := of_bind_eq_ok h
    cases h
    have hin := length_of_loadBytes (liftMem_eq_ok hname)
    have h₁ := length_of_store (liftMem_eq_ok hb₁)
    have h₂ := length_of_store (liftMem_eq_ok hb₂)
    have hle : (cString b₂).length ≤ b₂.length := (List.takeWhile_sublist _).length_le
    have hmod := Nat.mod_le (sizeT (schar len) + 1) (2 ^ 64)
    rw [length_malloc] at h₁
    exact ⟨nul_not_mem_cString _, by show (cString b₂).length < buf.length; omega⟩
  · cases h

end SnakeSocks.Socks5
