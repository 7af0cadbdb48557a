import SnakeSocks.Module.Residue
import SnakeSocks.Module.SeSession

/-!
# What the modules keep from somebody without the key

The address of a packet is its first sixteen bytes, which is one AES block, and `AES_ECB_encrypt` enciphers one block. So a
packet of `se_proxy` is the enciphered address and everything else as it is: `se_proxy_beyond_address` says that it can be
read without the key and that its first block can be put in front of anything else.

`simple_proxy` accepts everybody and masks with a checksum of one byte: `simple_proxy_keys_iff` says which passphrases get
along.
-/

namespace SnakeSocks

open ByteLib CMem Aes

/-! ## One block and the rest -/

section
variable {junk : Nat → UInt8} {q : ClientQuery} {data data' : Bytes}

theorem take_of_carries (h : Carries data q) : data.take 16 = q.destinationIp.toList := by
  rw [← h.ip_eq, slice_zero_left]

/-- Behind the address a packet does not depend on it. -/
theorem packQuery_drop (ip : Vector UInt8 16) (h : packQuery junk q = .ok data)
    (h' : packQuery junk { q with destinationIp := ip } = .ok data') : data.drop 16 = data'.drop 16 := by
  obtain ⟨_, hp, hl, hd⟩ := packQuery_getElem junk q
  obtain ⟨_, hp', hl', hd'⟩ := packQuery_getElem junk { q with destinationIp := ip }
  rw [h] at hp
  rw [h'] at hp'
  cases hp
  cases hp'
  apply List.ext_getElem?
  intro i
  rw [List.getElem?_drop, List.getElem?_drop]
  by_cases hi : 16 + i < 27 + q.payload.length.toNat
  · have hfield : fieldByte q (16 + i) = fieldByte { q with destinationIp := ip } (16 + i) := by simp [fieldByte]
    rw [hd _ hi, hd' _ hi, hfield]
    rfl
  · rw [List.getElem?_eq_none (by omega), List.getElem?_eq_none (by simp only [hl']; omega)]

theorem slice_behind {a b : Bytes} (h : a.drop 16 = b.drop 16) {off n : Nat} (ho : 16 ≤ off) : slice a off n = slice b off n := by
  have hdrop : ∀ xs : Bytes, xs.drop off = (xs.drop 16).drop (off - 16) := by
    intro xs
    rw [List.drop_drop, Nat.add_sub_cancel' ho]
  rw [slice, slice, hdrop a, hdrop b, h]

theorem drop_fillPad (hl : 16 ≤ data.length) (hlen : data.length = data'.length) (h : data.drop 16 = data'.drop 16) :
    (fillPad data).drop 16 = (fillPad data').drop 16 := by
  simp only [fillPad]
  rw [List.append_assoc, List.append_assoc, List.drop_append_of_le_length hl, List.drop_append_of_le_length (by omega), h,
    hlen]

end

/-! ## `se_proxy` -/

namespace SeProxy

/-- Another packet behind the first block of one that was seen. -/
def spliced (seen data : Bytes) : Bytes := seen.take 16 ++ (fillPad data).drop 16

section
variable {pw : SymPassphrase} {q q' : ClientQuery} {data : Bytes}

/-- A packet on the wire: the address goes through the cipher, the rest does not. -/
def wire (pw : SymPassphrase) (q : ClientQuery) (data : Bytes) : Bytes :=
  KokkeAes.aes128 (rkeyOf pw.key) q.destinationIp.toList ++ (fillPad data).drop 16

theorem take_wire : (wire pw q data).take 16 = KokkeAes.aes128 (rkeyOf pw.key) q.destinationIp.toList :=
  List.take_left' (KokkeAes.length_aes128 _ _)

theorem drop_wire : (wire pw q data).drop 16 = (fillPad data).drop 16 := List.drop_left' (KokkeAes.length_aes128 _ _)

theorem encode_wire (junk : Junk) (pass : BinarySafeString) (pw : SymPassphrase)
    (hq : q.payload.length.toNat ≤ 64 * 1024 * 1024) :
    ∃ data, encode junk ⟨pass, some pw⟩ q = .ok (.ofBlock (wire pw q data)) ∧ packQuery (junk 0) q = .ok data ∧
      Carries data q ∧ (wire pw q data).length < 2 ^ 32 := by
  obtain ⟨data, hp, hc, he⟩ := encode_eq junk pass pw q
  have hl := hc.length_eq
  have hb := roundUp_bounds data.length
  have hpad := length_fillPad data
  rw [staged_eq (by omega) (by simp)] at he
  have htake : (fillPad data).take 16 = q.destinationIp.toList := calc
    (fillPad data).take 16 = ((fillPad data).take data.length).take 16 := by
      rw [List.take_take, Nat.min_eq_left (by omega)]
    _ = q.destinationIp.toList := by rw [take_fillPad, take_of_carries hc]
  rw [encFirst, htake, ← wire] at he
  refine ⟨data, he, hp, hc, ?_⟩
  rw [wire, List.length_append, KokkeAes.length_aes128, List.length_drop]
  omega

/-- Read as if nothing were enciphered, a packet gives everything but the address. -/
theorem unpacked_wire (hc : Carries data q) :
    (unpacked (wire pw q data)).destinationPort = q.destinationPort ∧
      (unpacked (wire pw q data)).payload.bytes = q.payload.bytes := by
  have hl := hc.length_eq
  have hpl := q.payload.length.toNat_lt
  have hb := roundUp_bounds data.length
  have hlen : (wire pw q data).length = roundUp data.length 16 := by
    rw [wire, List.length_append, KokkeAes.length_aes128, List.length_drop, length_fillPad]
    omega
  -- every field behind the address is where the packed query has it
  have hsl : ∀ off n, 16 ≤ off → off + n ≤ data.length → slice (wire pw q data) off n = slice data off n := by
    intro off n ho hn
    rw [slice_behind drop_wire ho, fillPad, List.append_assoc, slice_append_left hn]
  have hplsz : plszField (wire pw q data) = q.payload.length.toNat := by
    rw [plszField, hsl 20 4 (by omega) (by omega), hc.plsz_eq]
    exact leNat_leBytes 4 _ (by omega)
  refine ⟨?_, ?_⟩
  · have hp := q.destinationPort.toNat_lt
    simp only [unpacked]
    rw [hsl 16 2 (by omega) (by omega), hc.port_eq, leNat_leBytes 2 _ (by omega), UInt16.ofNat_toNat]
  · rw [unpacked_payload_bytes (by omega), hplsz, hsl 24 _ (by omega) (by omega), hc.payload_eq]

/-- Behind the first block of one packet stands any other query, with the address of the first. -/
theorem spliced_wire {data₁ data₂ : Bytes} {junk : Nat → UInt8} (h : packQuery junk q' = .ok data₁)
    (h' : packQuery junk { q' with destinationIp := q.destinationIp } = .ok data₂) :
    spliced (wire pw q data) data₁ = wire pw { q' with destinationIp := q.destinationIp } data₂ := by
  obtain ⟨_, hp, hl, -⟩ := packQuery_getElem junk q'
  obtain ⟨_, hp', hl', -⟩ := packQuery_getElem junk { q' with destinationIp := q.destinationIp }
  rw [h] at hp
  rw [h'] at hp'
  cases hp
  cases hp'
  rw [spliced, take_wire, wire, drop_fillPad (by omega) (hl.trans hl'.symm) (packQuery_drop _ h h')]

end

/-- For every session key and every query with a payload of up to 64 MiB: the packet read without the key gives the port and
the payload; and behind its first block any other query can be packed without the key, which the other end then takes for a
query to the same address. -/
theorem se_proxy_beyond_address (junk junk' junk'' : Junk) (stack : ClientQuery) (pass pass' : BinarySafeString)
    {pw pw' : SymPassphrase} (hkey : pw.key = pw'.key) (q : ClientQuery) (hq : q.payload.length.toNat ≤ 64 * 1024 * 1024) :
    ∃ dat, encode junk ⟨pass, some pw⟩ q = .ok dat ∧
      ((unpacked dat.bytes).destinationPort = q.destinationPort ∧ (unpacked dat.bytes).payload.bytes = q.payload.bytes) ∧
      ∀ q' : ClientQuery, q'.payload.length.toNat ≤ 64 * 1024 * 1024 → ∃ data r, packQuery (junk' 0) q' = .ok data ∧
        decode junk'' stack ⟨pass', some pw'⟩ (.ofBlock (spliced dat.bytes data)) = .ok r ∧
        r.Same { q' with destinationIp := q.destinationIp } := by
  obtain ⟨data, henc, -, hc, hlt⟩ := encode_wire junk pass pw hq
  refine ⟨_, henc, ?_, ?_⟩
  · rw [BinarySafeString.ofBlock_bytes hlt]
    exact unpacked_wire hc
  · intro q' hq'
    obtain ⟨data', hp', -⟩ := packQuery_carries (junk' 0) q'
    obtain ⟨data₂, henc₂, hp₂, -, -⟩ := @encode_wire { q' with destinationIp := q.destinationIp } junk' pass pw hq'
    obtain ⟨b, r, hb, hdec, hsame⟩ := decode_encode junk' junk'' stack pass pass' hkey
      (q := { q' with destinationIp := q.destinationIp }) hq'
    rw [henc₂] at hb
    cases hb
    refine ⟨data', r, hp', ?_, hsame⟩
    rw [BinarySafeString.ofBlock_bytes hlt, spliced_wire hp' hp₂, hdec]

/-- One byte to port 80 of some address, and nothing to port 22 of it in its place. -/
theorem se_proxy_beyond_address_one_byte : ∃ dat data r,
    encode (fun _ _ => 0) ⟨.null false, some ⟨1, [7], by decide⟩⟩ ⟨ip16 [10, 0, 0, 7], 80, .ofBlock [65]⟩ = .ok dat ∧
      (unpacked dat.bytes).payload.bytes = [65] ∧ packQuery (fun _ => 0) ⟨ip16 [], 22, .null false⟩ = .ok data ∧
      decode (fun _ _ => 0) ⟨ip16 [], 0, .null false⟩ ⟨.null false, some ⟨1, [7, 8], by decide⟩⟩
        (.ofBlock (spliced dat.bytes data)) = .ok r ∧
      r.Same ⟨ip16 [10, 0, 0, 7], 22, .null false⟩ := by
  obtain ⟨dat, henc, ⟨-, hpay⟩, hforge⟩ := @se_proxy_beyond_address (fun _ _ => 0) (fun _ _ => 0) (fun _ _ => 0)
    ⟨ip16 [], 0, .null false⟩ (.null false) (.null false) ⟨1, [7], by decide⟩ ⟨1, [7, 8], by decide⟩ rfl
    ⟨ip16 [10, 0, 0, 7], 80, .ofBlock [65]⟩ (by decide)
  obtain ⟨data, r, hp, hdec, hsame⟩ := hforge ⟨ip16 [], 22, .null false⟩ (by decide)
  exact ⟨dat, data, r, henc, hpay, hp, hdec, hsame⟩

end SeProxy

/-! ## `simple_proxy` -/

namespace SimpleProxy

theorem xor_xor_eq_iff {b k k' : UInt8} : b ^^^ k ^^^ k' = b ↔ k = k' := by
  constructor
  · intro h
    have h' := congrArg (b ^^^ ·) h
    simp only [UInt8.xor_assoc, UInt8.xor_self] at h'
    rw [← UInt8.xor_assoc, UInt8.xor_self, UInt8.zero_xor] at h'
    exact UInt8.xor_eq_zero_iff.1 h'
  · rintro rfl
    rw [UInt8.xor_assoc, UInt8.xor_self, UInt8.xor_zero]

section
variable {junk junk' : Nat → UInt8} {stack q : ClientQuery} {cli srv : ConnectInfo}

/-- The address of a decoded packet is masked with both checksums. -/
theorem slice_plain {data : Bytes} {dat : BinarySafeString} (hcar : Carries data q)
    (h : dat.bytes = data.map (· ^^^ bssHash cli.passphrase)) :
    slice (plain srv dat) 0 16 =
      q.destinationIp.toList.map fun b => b ^^^ bssHash cli.passphrase ^^^ bssHash srv.passphrase := by
  have hlen : dat.length.toNat = data.length := by rw [← dat.length_bytes, h, List.length_map]
  have hl := hcar.length_eq
  calc slice (plain srv dat) 0 16 = ((plain srv dat).take dat.length.toNat).take 16 := by
        rw [slice_zero_left, List.take_take, Nat.min_eq_left (by omega)]
    _ = (data.take 16).map fun b => b ^^^ bssHash cli.passphrase ^^^ bssHash srv.passphrase := by
        rw [take_plain, h, List.map_map, ← List.map_take]
        rfl
    _ = _ := by rw [take_of_carries hcar]

/-- One packet from one end to the other. -/
theorem decode_encode_iff (hq : q.payload.length.toNat ≤ 64 * 1024 * 1024) :
    (∃ dat r, encode junk cli q = .ok dat ∧ decode junk' stack srv dat = .ok r ∧ r.Same q) ↔
      bssHash cli.passphrase = bssHash srv.passphrase := by
  obtain ⟨dat, data, henc, hcar, hbytes⟩ := encode_bytes (q := q) junk cli (by omega)
  have hlen : dat.length.toNat = 27 + q.payload.length.toNat := by
    rw [← dat.length_bytes, hbytes, List.length_map, hcar.length_eq]
  constructor
  · rintro ⟨dat', r, henc', hdec, hip, -⟩
    rw [henc] at henc'
    cases henc'
    rw [decode] at hdec
    by_cases hfit : 24 + plszField (plain srv dat) ≤ (plain srv dat).length
    · rw [unpackQuery_long junk' stack (by omega) hfit] at hdec
      cases hdec
      have h16 : (slice (plain srv dat) 0 16).length = 16 := by rw [slice_plain hcar hbytes]; simp
      have hlist := congrArg Vector.toList hip
      rw [unpacked, toList_ip16 h16, slice_plain hcar hbytes] at hlist
      -- one byte of the address is enough
      cases haddr : q.destinationIp.toList with
      | nil =>
        have h0 := congrArg List.length haddr
        simp at h0
      | cons b rest =>
        rw [haddr, List.map_cons] at hlist
        exact xor_xor_eq_iff.1 (List.cons.inj hlist).1
    · rw [unpackQuery_outside junk' stack (by omega) hfit] at hdec
      cases hdec
  · intro hkey
    rw [hkey] at hbytes
    have hgot : ∃ r, decode junk' stack srv dat = .ok r ∧ r.Same q := decode_of_bytes hcar hbytes
    obtain ⟨r, hr, hsame⟩ := hgot
    exact ⟨dat, r, henc, hr, hsame⟩

end

/-- For every two passphrases, a client and a server of `simple_proxy` authenticate each other, and after that every query
with a payload of up to 64 MiB gets through, in either direction, exactly when the checksums are the same. -/
theorem simple_proxy_keys_iff (cli srv : ConnectInfo) (q : ClientQuery) (hq : q.payload.length.toNat ≤ 64 * 1024 * 1024)
    (junk junk' : Nat → UInt8) (stack : ClientQuery) :
    (∃ query reply, clientMakeAuthQuery junk cli = .ok query ∧ serverMakeAuthReply srv query = (reply, false) ∧
      clientDealAuthReply reply = .ok true) ∧
    ((∃ dat r, clientEncode junk cli q = .ok dat ∧ serverDecode junk' stack srv dat = .ok r ∧ r.Same q) ↔
      bssHash cli.passphrase = bssHash srv.passphrase) ∧
    ((∃ dat r, serverEncode junk srv q = .ok dat ∧ clientDecode junk' stack cli dat = .ok r ∧ r.Same q) ↔
      bssHash cli.passphrase = bssHash srv.passphrase) := by
  refine ⟨?_, decode_encode_iff hq, (decode_encode_iff hq).trans eq_comm⟩
  have hlen := cli.passphrase.length_bytes
  have hcopy := memcpy_all (malloc junk cli.passphrase.length.toNat) cli.passphrase.bytes 0 (by simp)
  rw [hlen] at hcopy
  rw [clientMakeAuthQuery, hcopy]
  exact ⟨_, .ofBlock [1], rfl, rfl, by decide⟩

/-- `"ab"` and `"ba"`. -/
theorem simple_proxy_keys_iff_anagram : ∃ dat r,
    clientEncode (fun _ => 0) ⟨.ofBlock [97, 98], none⟩ ⟨ip16 [10, 0, 0, 7], 80, .ofBlock [65]⟩ = .ok dat ∧
      serverDecode (fun _ => 0) ⟨ip16 [], 0, .null false⟩ ⟨.ofBlock [98, 97], none⟩ dat = .ok r ∧
      r.Same ⟨ip16 [10, 0, 0, 7], 80, .ofBlock [65]⟩ :=
  (simple_proxy_keys_iff ⟨.ofBlock [97, 98], none⟩ ⟨.ofBlock [98, 97], none⟩ ⟨ip16 [10, 0, 0, 7], 80, .ofBlock [65]⟩
    (by decide) _ _ _).2.1.2 (by decide)

end SimpleProxy

end SnakeSocks
