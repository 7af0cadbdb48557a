import SnakeSocks.Module.SeProxy
import SnakeSocks.Module.SimpleProxy

/-!
# What the packets carry besides the query

`data_struct` has a hole of two bytes behind `dstport` and three bytes of padding at its end, and the encoders send the
whole struct out of a block they have not zeroed (both modules zero the other buffers they use). `packQuery_getElem`
says for every byte of a packet where it comes from; `wire_bytes_iff` says when two packets for the same query are the
same on the wire.
-/

namespace SnakeSocks

open ByteLib CMem KokkeAes Aes

/-! ## Byte by byte -/

theorem getElem?_malloc {junk : Nat → UInt8} {n i : Nat} (h : i < n) : (malloc junk n)[i]? = some (junk i) := by
  simp [malloc, h]

/-- A write shows where it was made and nowhere else. -/
theorem getElem?_splice {blk bs : Bytes} {off : Nat} (h : off + bs.length ≤ blk.length) (i : Nat) :
    (splice blk off bs)[i]? = if off ≤ i ∧ i < off + bs.length then bs[i - off]? else blk[i]? := by
  have hl : (blk.take off).length = off := by simp; omega
  unfold splice
  by_cases hlo : i < off
  · rw [if_neg (by omega), List.append_assoc, List.getElem?_append_left (by omega), List.getElem?_take_of_lt hlo]
  · by_cases hhi : i < off + bs.length
    · rw [if_pos (by omega), List.getElem?_append_left (by simp; omega), List.getElem?_append_right (by omega), hl]
    · have hl2 : (blk.take off ++ bs).length = off + bs.length := by simp; omega
      rw [if_neg (by omega), List.getElem?_append_right (by omega), hl2, List.getElem?_drop,
        Nat.add_sub_cancel' (by omega)]

/-- The bytes of a packet some field of the struct covers. -/
def Written (q : ClientQuery) (i : Nat) : Prop := i < 18 ∨ (20 ≤ i ∧ i < 24 + q.payload.length.toNat)

instance (q : ClientQuery) (i : Nat) : Decidable (Written q i) := inferInstanceAs (Decidable (_ ∨ _))

/-- The field's byte. -/
def fieldByte (q : ClientQuery) (i : Nat) : Option UInt8 :=
  if 24 ≤ i then q.payload.bytes[i - 24]?
  else if 20 ≤ i then (leBytes 4 q.payload.length.toNat)[i - 20]?
  else if 16 ≤ i then (leBytes 2 q.destinationPort.toNat)[i - 16]?
  else q.destinationIp.toList[i]?

/-- Every byte of a packet is a field's byte, or what the fresh block held there. -/
theorem packQuery_getElem (junk : Nat → UInt8) (q : ClientQuery) :
    ∃ data, packQuery junk q = .ok data ∧ data.length = 27 + q.payload.length.toNat ∧
      ∀ i < 27 + q.payload.length.toNat, data[i]? = if Written q i then fieldByte q i else some (junk i) := by
  have hip : q.destinationIp.toList.length = 16 := by simp
  have hpay : q.payload.bytes.length = q.payload.length.toNat := q.payload.length_bytes
  have l0 := length_packedIp junk q
  have l1 := length_packedPort junk q
  have l2 := length_packedHead junk q
  refine ⟨_, packQuery_eq junk q, by rw [length_splice (by omega), l2], ?_⟩
  intro i hi
  have hm := @getElem?_malloc junk _ i hi
  rw [getElem?_splice (by omega), packedHead, getElem?_splice (by simp; omega), packedPort,
    getElem?_splice (by simp; omega), packedIp, getElem?_splice (by simp; omega), hm, hip, hpay, length_leBytes,
    length_leBytes]
  -- the last write that covers the position decides
  by_cases h24 : 24 ≤ i
  · by_cases hn : i < 24 + q.payload.length.toNat
    · rw [if_pos ⟨h24, hn⟩, if_pos (.inr ⟨by omega, hn⟩), fieldByte, if_pos h24]
    · rw [if_neg (by omega), if_neg (by omega), if_neg (by omega), if_neg (by omega), if_neg (by unfold Written; omega)]
  rw [if_neg (by omega)]
  by_cases h20 : 20 ≤ i
  · rw [if_pos (by omega), if_pos (.inr ⟨h20, by omega⟩), fieldByte, if_neg h24, if_pos h20]
  rw [if_neg (by omega)]
  by_cases h18 : 18 ≤ i
  · rw [if_neg (by omega), if_neg (by omega), if_neg (by unfold Written; omega)]
  by_cases h16 : 16 ≤ i
  · rw [if_pos (by omega), if_pos (.inl (by omega)), fieldByte, if_neg h24, if_neg h20, if_pos h16]
  · rw [if_neg (by omega), if_pos (by omega), if_pos (.inl (by omega)), fieldByte, if_neg h24, if_neg h20, if_neg h16,
      Nat.sub_zero]

/-! ## Two packets for one query -/

/-- The offsets no field covers: the hole behind the port and the padding at the end. -/
def unwritten (q : ClientQuery) : List Nat :=
  [18, 19, 24 + q.payload.length.toNat, 25 + q.payload.length.toNat, 26 + q.payload.length.toNat]

theorem mem_unwritten {q : ClientQuery} {i : Nat} :
    i ∈ unwritten q ↔ i < 27 + q.payload.length.toNat ∧ ¬Written q i := by
  simp only [unwritten, Written, List.mem_cons, List.not_mem_nil, or_false]
  omega

/-- The two contents agree on the unwritten offsets below `n`. -/
def AgreeBelow (n : Nat) (q : ClientQuery) (junk junk' : Nat → UInt8) : Prop := ∀ i ∈ unwritten q, i < n → junk i = junk' i

/-- The first `n` bytes of two packets are the same exactly when the blocks agreed where nothing was written. -/
theorem packQuery_take_iff (junk junk' : Nat → UInt8) (q : ClientQuery) (n : Nat) {data data' : Bytes}
    (h : packQuery junk q = .ok data) (h' : packQuery junk' q = .ok data') :
    data.take n = data'.take n ↔ AgreeBelow n q junk junk' := by
  obtain ⟨_, hp, hl, hd⟩ := packQuery_getElem junk q
  obtain ⟨_, hp', hl', hd'⟩ := packQuery_getElem junk' q
  rw [h] at hp
  rw [h'] at hp'
  cases hp
  cases hp'
  constructor
  · intro heq i hi hin
    obtain ⟨hlt, hw⟩ := mem_unwritten.1 hi
    have hget := congrArg (fun l => l[i]?) heq
    simp only [List.getElem?_take_of_lt hin] at hget
    rw [hd i hlt, hd' i hlt, if_neg hw, if_neg hw] at hget
    exact Option.some.inj hget
  · intro hag
    apply List.ext_getElem?
    intro i
    by_cases hin : i < n
    · rw [List.getElem?_take_of_lt hin, List.getElem?_take_of_lt hin]
      by_cases hlt : i < 27 + q.payload.length.toNat
      · rw [hd i hlt, hd' i hlt]
        by_cases hw : Written q i
        · rw [if_pos hw, if_pos hw]
        · rw [if_neg hw, if_neg hw, hag i (mem_unwritten.2 ⟨hlt, hw⟩) hin]
      · rw [List.getElem?_eq_none (by omega), List.getElem?_eq_none (by omega)]
    · rw [List.getElem?_take_eq_none (by omega), List.getElem?_take_eq_none (by omega)]

/-- Both calls return, and the strings they return are the same. -/
def SameString (r r' : Except Fault BinarySafeString) : Prop := ∃ a b, r = .ok a ∧ r' = .ok b ∧ a.bytes = b.bytes

theorem sameString_ok {a b : BinarySafeString} :
    SameString (.ok a) (.ok b) ↔ a.bytes = b.bytes := by
  constructor
  · rintro ⟨_, _, ha, hb, h⟩
    cases ha
    cases hb
    exact h
  · intro h
    exact ⟨a, b, rfl, rfl, h⟩

/-- The bytes of a string over a block, with the length field reduced. -/
theorem bytes_ofBlock (blk : Bytes) : (BinarySafeString.ofBlock blk).bytes = blk.take (blk.length % 2 ^ 32) := by
  simp [BinarySafeString.bytes, BinarySafeString.ofBlock]

/-! ### `simple_proxy` -/

theorem map_xor_injective (k : UInt8) : Function.Injective (List.map (· ^^^ k)) := by
  apply List.map_injective_iff.2
  intro a b h
  have h2 := congrArg (· ^^^ k) h
  simpa [UInt8.xor_assoc] using h2

theorem SimpleProxy.encode_same_iff (conn : ConnectInfo) (q : ClientQuery) (junk junk' : Nat → UInt8) :
    SameString (SimpleProxy.encode junk conn q) (SimpleProxy.encode junk' conn q) ↔
      AgreeBelow ((27 + q.payload.length.toNat) % 2 ^ 32) q junk junk' := by
  obtain ⟨data, hp, hl, -⟩ := packQuery_getElem junk q
  obtain ⟨data', hp', hl', -⟩ := packQuery_getElem junk' q
  rw [← packQuery_take_iff junk junk' q _ hp hp']
  simp only [SimpleProxy.encode, hp, hp', ok_bind, pure_eq_ok, sameString_ok, bytes_ofBlock, SimpleProxy.xorLoop_all, List.length_map, hl, hl']
  rw [← List.map_take, ← List.map_take, (map_xor_injective _).eq_iff]

/-! ### `se_proxy` -/

/-- Enciphering the first block hides nothing that would make two buffers the same. -/
theorem encFirst_take_iff (k : Bytes) {a b : Bytes} {n : Nat} (ha : 16 ≤ a.length) (hb : 16 ≤ b.length) (hn : 16 ≤ n) :
    (encFirst k a).take n = (encFirst k b).take n ↔ a.take n = b.take n := by
  have key : ∀ c : Bytes, 16 ≤ c.length → (encFirst k c).take n = aes128 k (c.take 16) ++ (c.drop 16).take (n - 16) ∧
      c.take n = c.take 16 ++ (c.drop 16).take (n - 16) := by
    intro c hc
    constructor
    · rw [encFirst, List.take_append, List.take_of_length_le (by simp; omega), length_aes128]
    · rw [← List.take_add, Nat.add_sub_cancel' hn]
  obtain ⟨ea, ta⟩ := key a ha
  obtain ⟨eb, tb⟩ := key b hb
  have la : (a.take 16).length = 16 := by simpa using ha
  have lb : (b.take 16).length = 16 := by simpa using hb
  rw [ea, eb, ta, tb]
  constructor
  · intro h
    obtain ⟨h1, h2⟩ := List.append_inj h (by simp)
    rw [aes128_inj la lb h1, h2]
  · intro h
    obtain ⟨h1, h2⟩ := List.append_inj h (by omega)
    rw [h1, h2]

/-- The padding depends on the length only. -/
theorem fillPad_take_iff {a b : Bytes} (h : a.length = b.length) (n : Nat) :
    (fillPad a).take n = (fillPad b).take n ↔ a.take n = b.take n := by
  obtain ⟨pad, ha, hb⟩ : ∃ pad, fillPad a = a ++ pad ∧ fillPad b = b ++ pad := by
    refine ⟨List.replicate (roundUp b.length 16 - b.length - 1) 0 ++ [UInt8.ofNat (roundUp b.length 16 - b.length)], ?_, ?_⟩
    · simp only [fillPad, h, List.append_assoc]
    · simp only [fillPad, List.append_assoc]
  rw [ha, hb, List.take_append, List.take_append, h]
  constructor
  · intro heq
    exact (List.append_inj heq (by simp [h])).1
  · intro heq
    rw [heq]

theorem staged_take {p : Bytes} {m : Nat} (h : p.length = m) :
    (staged p (List.replicate m 0)).take (m % 2 ^ 32) = p.take (m % 2 ^ 32) := by
  have hle := Nat.mod_le m (2 ^ 32)
  rw [staged, splice_zero, h, List.take_left' (by simp; omega)]

theorem SeProxy.encode_same_iff (pass : BinarySafeString) (pw : SymPassphrase) (q : ClientQuery) (junk junk' : Junk) :
    SameString (SeProxy.encode junk ⟨pass, some pw⟩ q) (SeProxy.encode junk' ⟨pass, some pw⟩ q) ↔
      AgreeBelow (roundUp (27 + q.payload.length.toNat) 16 % 2 ^ 32) q (junk 0) (junk' 0) := by
  obtain ⟨data, hp, hc, he⟩ := SeProxy.encode_eq junk pass pw q
  obtain ⟨data', hp', hc', he'⟩ := SeProxy.encode_eq junk' pass pw q
  have hl := hc.length_eq
  have hl' := hc'.length_eq
  have hb := roundUp_bounds (27 + q.payload.length.toNat)
  have hpad : (fillPad data).length = roundUp (27 + q.payload.length.toNat) 16 := by rw [length_fillPad, hl]
  have hpad' : (fillPad data').length = roundUp (27 + q.payload.length.toNat) 16 := by rw [length_fillPad, hl']
  rw [← packQuery_take_iff (junk 0) (junk' 0) q _ hp hp', he, he', sameString_ok, bytes_ofBlock, bytes_ofBlock, hl, hl']
  generalize roundUp (27 + q.payload.length.toNat) 16 = m at *
  have hs : (staged (fillPad data) (List.replicate m 0)).length = m := by
    rw [length_staged (by rw [hpad, List.length_replicate]), List.length_replicate]
  have hs' : (staged (fillPad data') (List.replicate m 0)).length = m := by
    rw [length_staged (by rw [hpad', List.length_replicate]), List.length_replicate]
  rw [length_encFirst _ _ (by omega), length_encFirst _ _ (by omega), hs, hs']
  -- the length field is a multiple of the block size, so it is 0 or at least one block
  by_cases h0 : m % 2 ^ 32 = 0
  · rw [h0]
    simp
  · rw [encFirst_take_iff _ (by omega) (by omega) (by omega), staged_take hpad, staged_take hpad',
      fillPad_take_iff (by omega)]

/-! ## The four encoders -/

/-- For every connection, query and pair of contents of the fresh blocks: an encoder of either module returns the same
string twice exactly when the blocks of the packet agreed on the offsets that no field covers (and that the length
field does not cut off). Nothing else of the memory shows. -/
theorem wire_bytes_iff (conn : ConnectInfo) (pass : BinarySafeString) (pw : SymPassphrase) (q : ClientQuery)
    (junk junk' : Junk) :
    (SameString (SimpleProxy.clientEncode (junk 0) conn q) (SimpleProxy.clientEncode (junk' 0) conn q) ↔
      AgreeBelow ((27 + q.payload.length.toNat) % 2 ^ 32) q (junk 0) (junk' 0)) ∧
    (SameString (SimpleProxy.serverEncode (junk 0) conn q) (SimpleProxy.serverEncode (junk' 0) conn q) ↔
      AgreeBelow ((27 + q.payload.length.toNat) % 2 ^ 32) q (junk 0) (junk' 0)) ∧
    (SameString (SeProxy.clientEncode junk ⟨pass, some pw⟩ q) (SeProxy.clientEncode junk' ⟨pass, some pw⟩ q) ↔
      AgreeBelow (roundUp (27 + q.payload.length.toNat) 16 % 2 ^ 32) q (junk 0) (junk' 0)) ∧
    (SameString (SeProxy.serverEncode junk ⟨pass, some pw⟩ q) (SeProxy.serverEncode junk' ⟨pass, some pw⟩ q) ↔
      AgreeBelow (roundUp (27 + q.payload.length.toNat) 16 % 2 ^ 32) q (junk 0) (junk' 0)) :=
  ⟨SimpleProxy.encode_same_iff conn q _ _, SimpleProxy.encode_same_iff conn q _ _, SeProxy.encode_same_iff pass pw q _ _,
    SeProxy.encode_same_iff pass pw q _ _⟩

/-- A query without payload, sent once out of a block of zeros and once out of a block of ones. -/
theorem padding_on_the_wire :
    ¬SameString (SimpleProxy.clientEncode (fun _ => 0) ⟨.ofBlock [65], none⟩ ⟨ip16 [10, 0, 0, 7], 80, .null false⟩)
      (SimpleProxy.clientEncode (fun _ => 1) ⟨.ofBlock [65], none⟩ ⟨ip16 [10, 0, 0, 7], 80, .null false⟩) ∧
    ¬SameString (SeProxy.serverEncode (fun _ _ => 0) ⟨.null false, some ⟨0, [], by decide⟩⟩ ⟨ip16 [10, 0, 0, 7], 80, .null false⟩)
      (SeProxy.serverEncode (fun _ _ => 1) ⟨.null false, some ⟨0, [], by decide⟩⟩ ⟨ip16 [10, 0, 0, 7], 80, .null false⟩) := by
  constructor
  · intro h
    have hag := (SimpleProxy.encode_same_iff _ _ _ _).1 h 18 (by decide) (by decide)
    exact absurd hag (by decide)
  · intro h
    have hag := (SeProxy.encode_same_iff _ _ _ _ _).1 h 18 (by decide) (by decide)
    exact absurd hag (by decide)

end SnakeSocks
