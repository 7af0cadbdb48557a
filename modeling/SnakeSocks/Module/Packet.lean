import SnakeSocks.Lib.CMem

/-!
# The module interface and the packet layout both modules share

| here | there |
| --- | --- |
| `BinarySafeString`, `ClientQuery`, `ConnectInfo` | `bss.h`, `client_query.h`, `conn.h` |
| `packQuery`   | the first half of the four encoders (`simple_proxy.c:40-49`, `:126-135`, `se_proxy.c:76-85`, `:202-211`) |
| `unpackQuery` | the second half of the four decoders (`simple_proxy.c:79-94`, `:165-180`, `se_proxy.c:125-140`, `:251-266`) |

Both sides go through `struct data_struct {uint8_t dstip[16]; uint16_t dstport; uint32_t plsz; uint8_t payload;}`.
With the natural alignment of the supported targets `dstport` is at 16, `plsz` at 20, `payload` at 24 and
`sizeof` is 28, so a packet is 27 bytes longer than its payload and bytes 18, 19 and the last three are never
written.
-/

namespace SnakeSocks

open ByteLib CMem

/-- `binary_safe_string`. `str` is the block the pointer points to (`none` is `NULL`); a string is only
ever handed around with a block of at least `length` bytes. -/
structure BinarySafeString where
  nullTerminated : Bool
  length : UInt32
  str : Option Bytes
  held : length.toNat ≤ (str.getD []).length
deriving DecidableEq

namespace BinarySafeString

/-- The bytes the string stands for. -/
def bytes (b : BinarySafeString) : Bytes := (b.str.getD []).take b.length.toNat

/-- `{false, n, NULL}` with `n = 0`. -/
def null (nt : Bool) : BinarySafeString := ⟨nt, 0, none, by simp⟩

/-- A string over the whole of a fresh block; the length field keeps 32 bits. -/
def ofBlock (blk : Bytes) : BinarySafeString :=
  ⟨false, UInt32.ofNat blk.length, some blk, by simp [Nat.mod_le]⟩

@[simp] theorem length_bytes (b : BinarySafeString) : b.bytes.length = b.length.toNat := by
  simp [bytes, b.held]

theorem ofBlock_length {blk : Bytes} (h : blk.length < 2 ^ 32) : (ofBlock blk).length.toNat = blk.length := by
  simp [ofBlock]; omega

theorem ofBlock_bytes {blk : Bytes} (h : blk.length < 2 ^ 32) : (ofBlock blk).bytes = blk := by
  rw [bytes, ofBlock_length h]
  simp [ofBlock]

/-- A receiver that copies the bytes of a string has the same bytes. -/
theorem ofBlock_bytes_bytes (b : BinarySafeString) : (ofBlock b.bytes).bytes = b.bytes :=
  ofBlock_bytes (by rw [length_bytes]; exact b.length.toNat_lt)

theorem str_eq_some {b : BinarySafeString} (h : b.length.toNat ≠ 0) : ∃ s, b.str = some s ∧ b.length.toNat ≤ s.length := by
  obtain ⟨nt, n, str, held⟩ := b
  cases str with
  | none => simp at held h; omega
  | some s => exact ⟨s, rfl, by simpa using held⟩

end BinarySafeString

/-- `client_query`. -/
structure ClientQuery where
  destinationIp : Vector UInt8 16
  destinationPort : UInt16
  payload : BinarySafeString
deriving DecidableEq

/-- What a round trip has to bring back: address, port, payload length and payload bytes. -/
def ClientQuery.Same (q r : ClientQuery) : Prop :=
  q.destinationIp = r.destinationIp ∧ q.destinationPort = r.destinationPort ∧
    q.payload.length = r.payload.length ∧ q.payload.bytes = r.payload.bytes

/-- `sym_passphrase` (`se_proxy.c:16`): `str` are the bytes from the field `str` to the end of the block. -/
structure SymPassphrase where
  pwlen : Nat
  str : Bytes
  held : pwlen ≤ str.length

def SymPassphrase.key (p : SymPassphrase) : Bytes := p.str.take p.pwlen

/-- The fields of `connect_info` the modules read. -/
structure ConnectInfo where
  passphrase : BinarySafeString
  additionalInfo : Option SymPassphrase

/-! ## `data_struct` -/

/-- The 16 bytes `memcpy` puts at the start of a `client_query`. -/
def ip16 (bs : Bytes) : Vector UInt8 16 := Vector.ofFn fun i => bs.getD i 0

theorem toList_ip16 {bs : Bytes} (h : bs.length = 16) : (ip16 bs).toList = bs := by
  apply List.ext_getElem (by simp [h])
  intro i h1 h2
  simp [ip16, h2]

theorem ip16_toList (v : Vector UInt8 16) : ip16 v.toList = v := by
  apply Vector.toList_inj.1
  exact toList_ip16 (by simp)

/-- Lay a query out in a fresh, unzeroed block. -/
def packQuery (junk : Nat → UInt8) (q : ClientQuery) : Except Fault Bytes := do
  let overallSize := 28 + q.payload.length.toNat - 1
  let data := malloc junk overallSize
  let data ← memcpy data 0 q.destinationIp.toList 0 16
  let data ← store data 16 (leBytes 2 q.destinationPort.toNat)
  let data ← store data 20 (leBytes 4 q.payload.length.toNat)
  if q.payload.length.toNat ≠ 0 then
    match q.payload.str with
    | some str => memcpy data 24 str 0 q.payload.length.toNat
    | none => .error .nullPointer
  else
    return data

/-- The field `plsz` of a packet. -/
def plszField (data : Bytes) : Nat := leNat (slice data 20 4)

/-- Read a query back from the packet `data` of announced length `length`. `stack` is what the
uninitialised local `query` holds; a packet of at most 24 bytes leaves most of it as it was. -/
def unpackQuery (junk : Nat → UInt8) (stack : ClientQuery) (data : Bytes) (length : Nat) :
    Except Fault ClientQuery := do
  let query := { stack with payload := .null stack.payload.nullTerminated }
  if length ≤ 24 then
    return query
  let ip ← load data 0 16
  let port ← load data 16 2
  let plsz ← load data 20 4
  let query := { query with destinationIp := ip16 ip, destinationPort := UInt16.ofNat (leNat port) }
  if leNat plsz ≠ 0 then
    let str ← memcpy (malloc junk (leNat plsz)) 0 data 24 (leNat plsz)
    return { query with payload := .ofBlock str }
  else
    return { query with payload := .null false }

/-! ### Packing -/

/-- A block that carries the fields of `q` at the offsets of `data_struct`. -/
structure Carries (data : Bytes) (q : ClientQuery) : Prop where
  length_eq : data.length = 27 + q.payload.length.toNat
  ip_eq : slice data 0 16 = q.destinationIp.toList
  port_eq : slice data 16 2 = leBytes 2 q.destinationPort.toNat
  plsz_eq : slice data 20 4 = leBytes 4 q.payload.length.toNat
  payload_eq : slice data 24 q.payload.length.toNat = q.payload.bytes

section
variable (junk : Nat → UInt8) (q : ClientQuery)

/-- The block with the address in it, then also the port, then also the payload length. -/
def packedIp : Bytes := splice (malloc junk (27 + q.payload.length.toNat)) 0 q.destinationIp.toList

def packedPort : Bytes := splice (packedIp junk q) 16 (leBytes 2 q.destinationPort.toNat)

def packedHead : Bytes := splice (packedPort junk q) 20 (leBytes 4 q.payload.length.toNat)

theorem length_packedIp : (packedIp junk q).length = 27 + q.payload.length.toNat := by
  rw [packedIp, length_splice (by simp; omega), length_malloc]

theorem length_packedPort : (packedPort junk q).length = 27 + q.payload.length.toNat := by
  have h := length_packedIp junk q
  rw [packedPort, length_splice (by simp; omega), h]

theorem length_packedHead : (packedHead junk q).length = 27 + q.payload.length.toNat := by
  have h := length_packedPort junk q
  rw [packedHead, length_splice (by simp; omega), h]

/-- Four writes into the fresh block, none of them outside. -/
theorem packQuery_eq : packQuery junk q = .ok (splice (packedHead junk q) 24 q.payload.bytes) := by
  have hip : q.destinationIp.toList.length = 16 := by simp
  have hsize : 28 + q.payload.length.toNat - 1 = 27 + q.payload.length.toNat := by omega
  have l0 := length_packedIp junk q
  have l1 := length_packedPort junk q
  have l2 := length_packedHead junk q
  have e0 := memcpy_all (malloc junk (27 + q.payload.length.toNat)) q.destinationIp.toList 0 (by simp; omega)
  rw [hip] at e0
  simp only [packQuery, hsize]
  rw [e0, ok_bind, ← packedIp, store_ok (by simp; omega), ok_bind, ← packedPort, store_ok (by simp; omega), ok_bind,
    ← packedHead]
  by_cases hz : q.payload.length.toNat = 0
  · have hnil : q.payload.bytes = [] := by
      rw [← List.length_eq_zero_iff, BinarySafeString.length_bytes, hz]
    rw [if_neg (by simpa using hz), hnil, splice]
    simp
  · obtain ⟨s, hs, hle⟩ := BinarySafeString.str_eq_some hz
    rw [if_pos hz, hs]
    simp only
    rw [memcpy_ok (by omega) (by omega), slice_zero_left, BinarySafeString.bytes, hs, Option.getD_some]

theorem packQuery_carries : ∃ data, packQuery junk q = .ok data ∧ Carries data q := by
  have hip : q.destinationIp.toList.length = 16 := by simp
  have hpay : q.payload.bytes.length = q.payload.length.toNat := q.payload.length_bytes
  have l0 := length_packedIp junk q
  have l1 := length_packedPort junk q
  have l2 := length_packedHead junk q
  have f0 := slice_splice_same (malloc junk (27 + q.payload.length.toNat)) 0 q.destinationIp.toList (by omega)
  have f1 := slice_splice_same (packedIp junk q) 16 (leBytes 2 q.destinationPort.toNat) (by omega)
  have f2 := slice_splice_same (packedPort junk q) 20 (leBytes 4 q.payload.length.toNat) (by omega)
  have f3 := slice_splice_same (packedHead junk q) 24 q.payload.bytes (by omega)
  rw [hip, ← packedIp] at f0
  rw [length_leBytes, ← packedPort] at f1
  rw [length_leBytes, ← packedHead] at f2
  rw [hpay] at f3
  refine ⟨_, packQuery_eq junk q, ?_, ?_, ?_, ?_, f3⟩
  · rw [length_splice (by omega), l2]
  · rw [slice_splice_before (by omega) (by omega), packedHead, slice_splice_before (by omega) (by omega), packedPort,
      slice_splice_before (by omega) (by omega), f0]
  · rw [slice_splice_before (by omega) (by omega), packedHead, slice_splice_before (by omega) (by omega), f1]
  · rw [slice_splice_before (by omega) (by omega), f2]

end

/-! ### Unpacking -/

theorem plszField_lt (data : Bytes) : plszField data < 2 ^ 32 := by
  have h := leNat_lt (slice data 20 4)
  have hl : (slice data 20 4).length ≤ 4 := by simp [slice]
  have hp : 256 ^ (slice data 20 4).length ≤ 256 ^ 4 := Nat.pow_le_pow_right (by omega) hl
  unfold plszField
  omega

/-- A short packet is rejected: no payload, and the rest of the query is the caller's stack. -/
theorem unpackQuery_short (junk : Nat → UInt8) (stack : ClientQuery) (data : Bytes) {length : Nat}
    (h : length ≤ 24) :
    unpackQuery junk stack data length = .ok { stack with payload := .null stack.payload.nullTerminated } := by
  simp [unpackQuery, h]

/-- What a longer packet gives when its payload field stays inside the block. -/
def unpacked (data : Bytes) : ClientQuery where
  destinationIp := ip16 (slice data 0 16)
  destinationPort := UInt16.ofNat (leNat (slice data 16 2))
  payload := if plszField data ≠ 0 then .ofBlock (slice data 24 (plszField data)) else .null false

theorem unpackQuery_long (junk : Nat → UInt8) (stack : ClientQuery) {data : Bytes} {length : Nat}
    (hl : 24 < length) (hd : 24 + plszField data ≤ data.length) :
    unpackQuery junk stack data length = .ok (unpacked data) := by
  have hs : (slice data 24 (plszField data)).length = plszField data := length_slice hd
  rw [unpackQuery, if_neg (by omega), load_ok (by omega), ok_bind, load_ok (by omega), ok_bind,
    load_ok (by omega), ok_bind]
  change (if plszField data ≠ 0 then _ else _) = _
  by_cases hz : plszField data = 0
  · simp [hz, unpacked]
  · rw [if_pos hz]
    change (do let str ← memcpy (malloc junk (plszField data)) 0 data 24 (plszField data); _) = _
    rw [memcpy_ok hd (by simp), ok_bind, splice_zero, hs, List.drop_of_length_le (by simp), List.append_nil]
    simp [unpacked, hz]

/-- Reading past the block stops the decoder. -/
theorem unpackQuery_outside (junk : Nat → UInt8) (stack : ClientQuery) {data : Bytes} {length : Nat}
    (hl : 24 < length) (hd : ¬24 + plszField data ≤ data.length) :
    unpackQuery junk stack data length = .error .readOutside := by
  rw [unpackQuery, if_neg (by omega)]
  by_cases h0 : 16 ≤ data.length
  · rw [load_ok (by omega), ok_bind]
    by_cases h1 : 18 ≤ data.length
    · rw [load_ok (by omega), ok_bind]
      by_cases h2 : 24 ≤ data.length
      · rw [load_ok (by omega), ok_bind]
        change (if plszField data ≠ 0 then _ else _) = _
        rw [if_pos (by omega)]
        change (do let str ← memcpy (malloc junk (plszField data)) 0 data 24 (plszField data); _) = _
        rw [memcpy, load_error hd]
        rfl
      · rw [load_error (by omega)]; rfl
    · rw [load_error (by omega)]; rfl
  · rw [load_error (by omega)]; rfl

theorem unpacked_payload_length {data : Bytes} (hd : 24 + plszField data ≤ data.length) :
    (unpacked data).payload.length.toNat = plszField data := by
  have hs : (slice data 24 (plszField data)).length = plszField data := length_slice hd
  have hlt := plszField_lt data
  by_cases hz : plszField data = 0
  · simp [unpacked, hz, BinarySafeString.null]
  · simp only [unpacked, ne_eq, hz, not_false_eq_true, if_true]
    rw [BinarySafeString.ofBlock_length (by omega), hs]

theorem unpacked_payload_bytes {data : Bytes} (hd : 24 + plszField data ≤ data.length) :
    (unpacked data).payload.bytes = slice data 24 (plszField data) := by
  have hs : (slice data 24 (plszField data)).length = plszField data := length_slice hd
  have hlt := plszField_lt data
  by_cases hz : plszField data = 0
  · simp [unpacked, hz, BinarySafeString.null, BinarySafeString.bytes]
  · simp only [unpacked, ne_eq, hz, not_false_eq_true, if_true]
    exact BinarySafeString.ofBlock_bytes (by omega)

/-- A packet that carries a query is read back as that query, whatever its unwritten bytes are. -/
theorem unpackQuery_of_carries (junk : Nat → UInt8) (stack : ClientQuery) {buf data : Bytes} {q : ClientQuery}
    (h : Carries data q) (hpre : buf.take data.length = data) :
    ∃ r, unpackQuery junk stack buf data.length = .ok r ∧ r.Same q := by
  have hlen := h.length_eq
  have hn := q.payload.length.toNat_lt
  have hle : data.length ≤ buf.length := by
    have := congrArg List.length hpre
    simp at this
    omega
  -- every field lies in the first `data.length` bytes of the buffer
  have hsl : ∀ off n, off + n ≤ data.length → slice buf off n = slice data off n := by
    intro off n hb
    rw [← List.take_append_drop data.length buf, hpre, slice_append_left hb]
  have hplsz : plszField buf = q.payload.length.toNat := by
    rw [plszField, hsl 20 4 (by omega), h.plsz_eq]
    exact leNat_leBytes 4 _ (by omega)
  have hin : 24 + plszField buf ≤ buf.length := by omega
  refine ⟨unpacked buf, unpackQuery_long junk stack (by omega) hin, ?_, ?_, ?_, ?_⟩
  · simp only [unpacked]
    rw [hsl 0 16 (by omega), h.ip_eq, ip16_toList]
  · have hp := q.destinationPort.toNat_lt
    simp only [unpacked]
    rw [hsl 16 2 (by omega), h.port_eq, leNat_leBytes 2 _ (by omega), UInt16.ofNat_toNat]
  · apply UInt32.toNat_inj.1
    rw [unpacked_payload_length hin, hplsz]
  · rw [unpacked_payload_bytes hin, hplsz, hsl 24 _ (by omega), h.payload_eq]

/-! ### Staying inside the packet -/

/-- The decoder rejected the packet: payload length 0 and `str` `NULL`. -/
def Rejected (q : ClientQuery) : Prop := q.payload.length = 0 ∧ q.payload.str = none

/-- The outcome of a decoder on a packet whose decoded bytes are `buf` and whose decoded length is
`length` copies nothing from outside the packet. -/
def CopiesInside (r : Except Fault ClientQuery) (buf : Bytes) (length : Nat) : Prop :=
  ∃ q, r = .ok q ∧ (Rejected q ∨
    (q.payload.length.toNat = plszField buf ∧ 24 + plszField buf ≤ length ∧
      q.payload.bytes = slice buf 24 (plszField buf)))

/-- The packet is too short to be read, or its `plsz` field fits both the decoded length and the block. -/
def PlszFits (buf : Bytes) (length : Nat) : Prop :=
  length ≤ 24 ∨ (24 + plszField buf ≤ length ∧ 24 + plszField buf ≤ buf.length)

theorem unpackQuery_copiesInside_iff (junk : Nat → UInt8) (stack : ClientQuery) (buf : Bytes) (length : Nat) :
    CopiesInside (unpackQuery junk stack buf length) buf length ↔ PlszFits buf length := by
  by_cases hl : length ≤ 24
  · rw [unpackQuery_short junk stack buf hl]
    exact ⟨fun _ => Or.inl hl, fun _ => ⟨_, rfl, Or.inl ⟨rfl, rfl⟩⟩⟩
  · by_cases hd : 24 + plszField buf ≤ buf.length
    · rw [unpackQuery_long junk stack (by omega) hd]
      have hlen := unpacked_payload_length hd
      constructor
      · rintro ⟨q, hq, hrej | ⟨-, hle, -⟩⟩
        · cases hq
          have hz := congrArg UInt32.toNat hrej.1
          rw [hlen] at hz
          simp at hz
          exact Or.inr ⟨by omega, hd⟩
        · exact Or.inr ⟨hle, hd⟩
      · rintro (h | ⟨hle, -⟩)
        · exact absurd h hl
        · exact ⟨_, rfl, Or.inr ⟨hlen, hle, unpacked_payload_bytes hd⟩⟩
    · rw [unpackQuery_outside junk stack (by omega) hd]
      constructor
      · rintro ⟨q, hq, -⟩
        cases hq
      · rintro (h | ⟨-, h⟩)
        · exact absurd h hl
        · exact absurd h hd

end SnakeSocks
