import SnakeSocks.Module.KokkeAes

/-!
# The padding wrapper `module_util/aes.c`

`AESEncrypt` and `AESDecrypt` cut or zero-fill the key to 16 bytes and, in fill mode
(`Q_AES_FLAG_FILL = 0`), pad the message to the next multiple of 16, always adding at least one byte;
the last byte is the pad count. Fill mode hands the primitive the whole padded length, but the
primitive transforms only the 16 bytes at its output (`KokkeAes.aesEcbEncrypt`): `aesEncrypt_fill`
says what comes out, and `encFirst_isEcb_iff` when that is ECB encryption of the message. In less mode
(`Q_AES_FLAG_LESS = 1`) a message has to be a block long at least (`less_mode_round_trip_iff`).

Lengths are `size_t`; no block is near `2 ^ 64` bytes, so the sums below are not reduced.
-/

namespace SnakeSocks.Aes

open ByteLib CMem KokkeAes

def roundUp (base mult : Nat) : Nat := base / mult * mult + mult

def roundDown (base mult : Nat) : Nat := base / mult * mult

/-- The `rkey` block both functions build (`aes.c:17-23` and its three copies). -/
def makeRkey (junk : Nat → UInt8) (key : Bytes) (keylen : Nat) : Except Fault Bytes := do
  let rkey := malloc junk 16
  if keylen < 16 then
    let rkey ← memcpy rkey 0 key 0 keylen
    memset rkey keylen 0 (16 - keylen)
  else
    memcpy rkey 0 key 0 16

/-- The padded copy `rsrc` of fill mode (`aes.c:36-40`). -/
def makeRsrc (junk : Nat → UInt8) (src : Bytes) (srclen : Nat) : Except Fault Bytes := do
  let delta := UInt8.ofNat (roundUp srclen 16 - srclen)
  let rsrc := malloc junk (roundUp srclen 16)
  let rsrc ← memset rsrc 0 0 (roundUp srclen 16)
  let rsrc ← store rsrc (roundUp srclen 16 - 1) [delta]
  memcpy rsrc 0 src 0 srclen

/-- `AESEncrypt` (`aes.c:13`); the result is the new content of `cip`. -/
def aesEncrypt (junk : Junk) (src key cip : Bytes) (srclen keylen : Nat) (flag : UInt8) :
    Except Fault Bytes := do
  if flag ≠ 0 then
    let rkey ← makeRkey (junk 0) key keylen
    let cip ← memcpy cip 0 src 0 srclen
    aesEcbEncrypt src rkey cip (roundDown srclen 16)
  else
    let rkey ← makeRkey (junk 0) key keylen
    let rsrc ← makeRsrc (junk 1) src srclen
    aesEcbEncrypt rsrc rkey cip (roundUp srclen 16)

/-- `AESDecrypt` (`aes.c:47`): the returned length and the new content of `result`. -/
def aesDecrypt (junk : Junk) (src key result : Bytes) (srclen keylen : Nat) (flag : UInt8) :
    Except Fault (Nat × Bytes) := do
  if flag ≠ 0 then
    let rkey ← makeRkey (junk 0) key keylen
    let result ← memcpy result 0 src 0 srclen
    let result ← aesEcbDecrypt src rkey result (roundDown srclen 16)
    return (srclen, result)
  else
    let rkey ← makeRkey (junk 0) key keylen
    let result ← aesEcbDecrypt src rkey result srclen
    -- result[srclen-1] with srclen = 0 is an index of 2^64 - 1
    let last ← load result (sizeT (srclen - 1)) 1
    return (sizeT (srclen - schar (last.getD 0 0)), result)

/-! ## Key and padding -/

/-- A key cut or zero-filled to 16 bytes. -/
def rkeyOf (key : Bytes) : Bytes := (key ++ List.replicate 16 0).take 16

@[simp] theorem length_rkeyOf (key : Bytes) : (rkeyOf key).length = 16 := by simp [rkeyOf]

/-- A message padded in fill mode. -/
def fillPad (src : Bytes) : Bytes :=
  let delta := roundUp src.length 16 - src.length
  src ++ List.replicate (delta - 1) 0 ++ [UInt8.ofNat delta]

theorem roundUp_bounds (n : Nat) : n < roundUp n 16 ∧ roundUp n 16 ≤ n + 16 ∧ roundUp n 16 % 16 = 0 := by
  unfold roundUp; omega

@[simp] theorem length_fillPad (src : Bytes) : (fillPad src).length = roundUp src.length 16 := by
  have h := roundUp_bounds src.length
  simp [fillPad]; omega

theorem makeRkey_eq (junk : Nat → UInt8) {key : Bytes} {keylen : Nat} (h : keylen ≤ key.length) :
    makeRkey junk key keylen = .ok (rkeyOf (key.take keylen)) := by
  unfold makeRkey rkeyOf
  by_cases hk : keylen < 16
  · have hl : (key.take keylen).length = keylen := by simp [h]
    have hd : ((malloc junk 16).drop keylen).length = 16 - keylen := by simp
    rw [if_pos hk, memcpy_ok (by omega) (by rw [length_malloc]; omega), ok_bind, slice_zero_left, splice_zero, hl,
      memset_ok (by rw [List.length_append, hl, hd]), splice_seam hl, List.drop_of_length_le (by simp),
      List.append_nil, List.take_append, hl,
      List.take_of_length_le (hl.le.trans hk.le), List.take_replicate, min_eq_left (by omega)]
  · have hl : (key.take 16).length = 16 := by simp; omega
    rw [if_neg hk, memcpy_ok (by omega) (by simp), slice_zero_left, splice_zero, hl,
      List.drop_of_length_le (by simp), List.append_nil, List.take_append_of_le_length (by simp; omega),
      List.take_take, min_eq_left (by omega)]

/-- The pad count is written before the message is copied in, and the message never reaches it. -/
theorem makeRsrc_eq (junk : Nat → UInt8) {src : Bytes} {n : Nat} (h : n ≤ src.length) :
    makeRsrc junk src n = .ok (fillPad (src.take n)) := by
  have hb := roundUp_bounds n
  have hn : (src.take n).length = n := by simp [h]
  have hz := memset_all (malloc junk (roundUp n 16)) (0 : UInt8)
  rw [length_malloc] at hz
  have hsplit : List.replicate (roundUp n 16) (0 : UInt8) =
      List.replicate (roundUp n 16 - 1) 0 ++ [0] := by
    rw [← List.replicate_succ', Nat.sub_add_cancel (by omega)]
  have hlast : splice (List.replicate (roundUp n 16) (0 : UInt8)) (roundUp n 16 - 1)
      [UInt8.ofNat (roundUp n 16 - n)] =
      List.replicate (roundUp n 16 - 1) 0 ++ [UInt8.ofNat (roundUp n 16 - n)] := by
    rw [hsplit, splice_seam (by simp)]
    simp
  rw [makeRsrc, hz, ok_bind, store_ok (by simp; omega), ok_bind, hlast,
    memcpy_ok (by omega) (by simp; omega), slice_zero_left, splice_zero, hn, List.drop_append,
    List.drop_replicate, List.length_replicate, show n - (roundUp n 16 - 1) = 0 by omega, List.drop_zero]
  simp only [fillPad, hn, List.append_assoc]
  congr 4
  omega

/-- The buffer `AES_ECB_encrypt` works on after its `memcpy` of a `uint32_t` length. -/
def staged (p cip : Bytes) : Bytes := splice cip 0 (p.take (p.length % 2 ^ 32))

theorem staged_eq {p cip : Bytes} (h : p.length < 2 ^ 32) (hc : cip.length = p.length) :
    staged p cip = p := by
  rw [staged, Nat.mod_eq_of_lt h, List.take_length, splice_zero, List.drop_of_length_le (by omega),
    List.append_nil]

theorem length_staged {p cip : Bytes} (h : p.length ≤ cip.length) :
    (staged p cip).length = cip.length := by
  apply length_splice
  simp
  omega

/-- What `AES_ECB_encrypt` leaves in a buffer: the first block enciphered, the rest as copied. -/
def encFirst (k buf : Bytes) : Bytes := aes128 k (buf.take 16) ++ buf.drop 16

def decFirst (k buf : Bytes) : Bytes := invAes128 k (buf.take 16) ++ buf.drop 16

section
variable {input key output out : Bytes} {length : Nat}

/-- Whatever the copy left, its first sixteen bytes go through the cipher. -/
theorem aesEcbEncrypt_of_copy (hcopy : memcpy output 0 input 0 (length % 2 ^ 32) = .ok out) (hk : key.length = 16)
    (h16 : 16 ≤ out.length) : aesEcbEncrypt input key output length = .ok (encFirst key out) := by
  have hkey : slice key 0 16 = key := by rw [← hk]; exact slice_all key
  rw [aesEcbEncrypt, hcopy, ok_bind, load_ok (by omega), ok_bind, load_ok (by omega), ok_bind, store_ok (by simp; omega),
    hkey, slice_zero_left, splice_zero, length_aes128, encFirst]

theorem aesEcbDecrypt_of_copy (hcopy : memcpy output 0 input 0 (length % 2 ^ 32) = .ok out) (hk : key.length = 16)
    (h16 : 16 ≤ out.length) : aesEcbDecrypt input key output length = .ok (decFirst key out) := by
  have hkey : slice key 0 16 = key := by rw [← hk]; exact slice_all key
  rw [aesEcbDecrypt, hcopy, ok_bind, load_ok (by omega), ok_bind, load_ok (by omega), ok_bind, store_ok (by simp; omega),
    hkey, slice_zero_left, splice_zero, length_invAes128, decFirst]

theorem memcpy_staged (h : input.length ≤ output.length) :
    memcpy output 0 input 0 (input.length % 2 ^ 32) = .ok (staged input output) := by
  have hle := Nat.mod_le input.length (2 ^ 32)
  rw [memcpy_ok (by omega) (by omega), slice_zero_left, ← staged]

theorem aesEcbEncrypt_eq (hk : key.length = 16) (ho : input.length ≤ output.length) (h16 : 16 ≤ output.length) :
    aesEcbEncrypt input key output input.length = .ok (encFirst key (staged input output)) :=
  aesEcbEncrypt_of_copy (memcpy_staged ho) hk (by rwa [length_staged ho])

theorem aesEcbDecrypt_eq (hk : key.length = 16) (ho : input.length ≤ output.length) (h16 : 16 ≤ output.length) :
    aesEcbDecrypt input key output input.length = .ok (decFirst key (staged input output)) :=
  aesEcbDecrypt_of_copy (memcpy_staged ho) hk (by rwa [length_staged ho])

end

theorem decFirst_encFirst (k : Bytes) {buf : Bytes} (h : 16 ≤ buf.length) :
    decFirst k (encFirst k buf) = buf := by
  have hl : (aes128 k (buf.take 16)).length = 16 := length_aes128 _ _
  have ht : (buf.take 16).length = 16 := by simp [h]
  rw [decFirst, encFirst, List.take_left' hl, List.drop_left' hl, invAes128_aes128 k ht,
    List.take_append_drop]

/-- Fill mode: pad, copy, encipher the first block. -/
theorem aesEncrypt_fill (junk : Junk) (src key cip : Bytes) {n keylen : Nat} (hn : n ≤ src.length)
    (hk : keylen ≤ key.length) (hc : roundUp n 16 ≤ cip.length) :
    aesEncrypt junk src key cip n keylen 0 =
      .ok (encFirst (rkeyOf (key.take keylen)) (staged (fillPad (src.take n)) cip)) := by
  have hb := roundUp_bounds n
  have hl : (fillPad (src.take n)).length = roundUp n 16 := by simp [hn]
  rw [aesEncrypt, if_neg (by simp), makeRkey_eq (junk 0) hk, ok_bind, makeRsrc_eq (junk 1) hn, ok_bind, ← hl]
  exact aesEcbEncrypt_eq (by simp) (by omega) (by omega)

theorem aesDecrypt_fill (junk : Junk) (src key result : Bytes) {keylen : Nat} (hk : keylen ≤ key.length)
    (hr : src.length ≤ result.length) (h16 : 16 ≤ src.length) (h64 : src.length < 2 ^ 64) :
    aesDecrypt junk src key result src.length keylen 0 =
      .ok (sizeT (src.length - schar ((decFirst (rkeyOf (key.take keylen)) (staged src result)).getD
        (src.length - 1) 0)), decFirst (rkeyOf (key.take keylen)) (staged src result)) := by
  have hst := length_staged hr
  have hlen : (decFirst (rkeyOf (key.take keylen)) (staged src result)).length = result.length := by
    simp [decFirst, hst]; omega
  have hi : sizeT ((src.length : Int) - 1) = src.length - 1 := by unfold sizeT; omega
  rw [aesDecrypt, if_neg (by simp), makeRkey_eq (junk 0) hk, ok_bind,
    aesEcbDecrypt_eq (by simp) hr (by omega), ok_bind, hi, load_ok (by omega), ok_bind]
  congr 4
  simp [slice]

/-- A message shorter than a block: the copy fits, and `InvCipher` then leaves the buffer. -/
theorem aesDecrypt_short (junk : Junk) (src key result : Bytes) {keylen : Nat} (hk : keylen ≤ key.length)
    (hr : result.length = src.length) (h : src.length < 16) :
    aesDecrypt junk src key result src.length keylen 0 = .error .readOutside := by
  have hl : (slice src 0 src.length).length = src.length := length_slice (by omega)
  have hm : (splice result 0 (slice src 0 src.length)).length = src.length := by
    rw [length_splice (by omega), hr]
  rw [aesDecrypt, if_neg (by simp), makeRkey_eq _ hk, ok_bind, aesEcbDecrypt, Nat.mod_eq_of_lt (by omega),
    memcpy_ok (by omega) (by omega), ok_bind, load_ok (by simp), ok_bind, load_error (by omega)]
  rfl

theorem getLast_fillPad (src : Bytes) :
    (fillPad src).getD (roundUp src.length 16 - 1) 0 = UInt8.ofNat (roundUp src.length 16 - src.length) := by
  have hb := roundUp_bounds src.length
  have hl : (src ++ List.replicate (roundUp src.length 16 - src.length - 1) (0 : UInt8)).length =
      roundUp src.length 16 - 1 := by simp; omega
  simp only [fillPad]
  rw [List.getD_eq_getElem?_getD, List.getElem?_append_right (by omega), hl]
  simp

theorem take_fillPad (src : Bytes) : (fillPad src).take src.length = src := by
  simp only [fillPad, List.append_assoc]
  exact List.take_left

theorem length_encFirst (k buf : Bytes) (h : 16 ≤ buf.length) :
    (encFirst k buf).length = buf.length := by
  simp [encFirst]; omega

/-- `AESDecrypt` in fill mode over an enciphered padded message: the message's length and the padded
message come back. -/
theorem aesDecrypt_encFirst (junk : Junk) (src key result : Bytes) {keylen : Nat} (hk : keylen ≤ key.length)
    (hr : result.length = roundUp src.length 16) (h32 : roundUp src.length 16 < 2 ^ 32) :
    aesDecrypt junk (encFirst (rkeyOf (key.take keylen)) (fillPad src)) key result (roundUp src.length 16) keylen 0 =
      .ok (src.length, fillPad src) := by
  have hb := roundUp_bounds src.length
  have hp := length_fillPad src
  have henc : (encFirst (rkeyOf (key.take keylen)) (fillPad src)).length = roundUp src.length 16 := by
    rw [length_encFirst _ _ (by omega), hp]
  have hd := aesDecrypt_fill junk (encFirst (rkeyOf (key.take keylen)) (fillPad src)) key result
    hk (by omega) (by omega) (by omega)
  rw [staged_eq (by omega) (by omega), decFirst_encFirst _ (by omega), henc, getLast_fillPad,
    schar_ofNat (by omega)] at hd
  rw [hd]
  congr 2
  unfold sizeT
  omega

/-! ## The round trips

Fill mode always has a whole block to work on. Less mode promises a result as long as the message, but the primitive works
on sixteen bytes however few there are. -/

/-- For every key and every message below the 32-bit limit of the primitive: decrypting what was encrypted returns the
message's length and leaves the message at the start of the result. -/
theorem fill_mode_round_trip (junk junk' : Junk) (src key cip result : Bytes) (h32 : roundUp src.length 16 < 2 ^ 32)
    (hc : cip.length = roundUp src.length 16) (hr : result.length = roundUp src.length 16) :
    ∃ out, aesEncrypt junk src key cip src.length key.length 0 = .ok out ∧ out.length = roundUp src.length 16 ∧
      ∃ res, aesDecrypt junk' out key result (roundUp src.length 16) key.length 0 = .ok (src.length, res) ∧
        res.take src.length = src := by
  have hb := roundUp_bounds src.length
  have hp := length_fillPad src
  have he := @aesEncrypt_fill junk src key cip src.length key.length le_rfl le_rfl hc.ge
  have hd := @aesDecrypt_encFirst junk' src key result key.length le_rfl hr h32
  rw [List.take_length, List.take_length, staged_eq (by omega) (by omega)] at he
  rw [List.take_length] at hd
  refine ⟨_, he, ?_, fillPad src, hd, take_fillPad src⟩
  rw [length_encFirst _ _ (by omega), hp]

/-- A message of a block and a byte under a key of one byte. -/
theorem fill_mode_round_trip_two_blocks :
    ∃ out, aesEncrypt (fun _ _ => 1) (List.replicate 17 9) [7] (List.replicate 32 0) 17 1 0 = .ok out ∧ out.length = 32 ∧
      ∃ res, aesDecrypt (fun _ _ => 2) out [7] (List.replicate 32 0) 32 1 0 = .ok (17, res) ∧
        res.take 17 = List.replicate 17 9 :=
  fill_mode_round_trip (fun _ _ => 1) (fun _ _ => 2) (List.replicate 17 9) [7] (List.replicate 32 0) (List.replicate 32 0)
    (by decide) (by decide) (by decide)

theorem memcpy_replace {dst src : Bytes} (h : dst.length = src.length) : memcpy dst 0 src 0 src.length = .ok src := by
  rw [memcpy_all dst src 0 (by omega), splice_zero, List.drop_of_length_le (by omega), List.append_nil]

/-- Copying the start of a block over itself. -/
theorem memcpy_self {buf : Bytes} {n : Nat} (h : n ≤ buf.length) : memcpy buf 0 buf 0 n = .ok buf := by
  have hl : (buf.take n).length = n := by simp [h]
  rw [memcpy_ok (by omega) (by omega), slice_zero_left, splice_zero, hl, List.take_append_drop]

theorem roundDown_le (n : Nat) : roundDown n 16 % 2 ^ 32 ≤ n := by
  have hmod := Nat.mod_le (roundDown n 16) (2 ^ 32)
  unfold roundDown at hmod ⊢
  omega

section
variable {src buf : Bytes} {keylen : Nat}

/-- The copy comes first, so that the `uint32_t` length of the primitive does no harm. -/
theorem aesEncrypt_less (junk : Junk) {key : Bytes} (hk : keylen ≤ key.length) (hc : buf.length = src.length)
    (h16 : 16 ≤ src.length) :
    aesEncrypt junk src key buf src.length keylen 1 = .ok (encFirst (rkeyOf (key.take keylen)) src) := by
  rw [aesEncrypt, if_pos (by decide), makeRkey_eq (junk 0) hk, ok_bind, memcpy_replace hc, ok_bind]
  exact aesEcbEncrypt_of_copy (memcpy_self (roundDown_le _)) (by simp) h16

theorem aesDecrypt_less (junk : Junk) {key : Bytes} (hk : keylen ≤ key.length) (hc : buf.length = src.length)
    (h16 : 16 ≤ src.length) :
    aesDecrypt junk src key buf src.length keylen 1 = .ok (src.length, decFirst (rkeyOf (key.take keylen)) src) := by
  rw [aesDecrypt, if_pos (by decide), makeRkey_eq (junk 0) hk, ok_bind, memcpy_replace hc, ok_bind,
    aesEcbDecrypt_of_copy (memcpy_self (roundDown_le _)) (by simp) h16]
  rfl

/-- With less than a block `Cipher` leaves the buffer. -/
theorem aesEncrypt_less_short (junk : Junk) {key : Bytes} (hk : keylen ≤ key.length) (hc : buf.length = src.length)
    (h : src.length < 16) : aesEncrypt junk src key buf src.length keylen 1 = .error .readOutside := by
  rw [aesEncrypt, if_pos (by decide), makeRkey_eq (junk 0) hk, ok_bind, memcpy_replace hc, ok_bind, aesEcbEncrypt,
    memcpy_self (roundDown_le _), ok_bind, load_ok (by simp), ok_bind, load_error (by omega)]
  rfl

end

/-- Both functions stay in buffers of the message's length, and the message comes back. -/
def LessRoundTrip (junk junk' : Junk) (src key cip result : Bytes) : Prop :=
  ∃ out, aesEncrypt junk src key cip src.length key.length 1 = .ok out ∧ out.length = src.length ∧
    aesDecrypt junk' out key result src.length key.length 1 = .ok (src.length, src)

/-- For every key, message and buffers as `aes.h` wants them. -/
theorem less_mode_round_trip_iff (junk junk' : Junk) (src key cip result : Bytes) (hc : cip.length = src.length)
    (hr : result.length = src.length) : LessRoundTrip junk junk' src key cip result ↔ 16 ≤ src.length := by
  constructor
  · rintro ⟨out, he, -, -⟩
    by_contra hshort
    rw [aesEncrypt_less_short junk le_rfl hc (by omega)] at he
    cases he
  · intro h16
    have hl := length_encFirst (rkeyOf key) src h16
    have he := aesEncrypt_less junk (Nat.le_refl key.length) hc h16
    have hd := @aesDecrypt_less (encFirst (rkeyOf key) src) result key.length junk' key le_rfl (hr.trans hl.symm) (by omega)
    rw [List.take_length] at he hd
    rw [hl, decFirst_encFirst _ h16] at hd
    exact ⟨_, he, hl, hd⟩

/-- A block and a ragged tail. -/
theorem less_mode_round_trip_ragged : LessRoundTrip (fun _ _ => 1) (fun _ _ => 2) (List.replicate 21 9) [7]
    (List.replicate 21 0) (List.replicate 21 0) :=
  (less_mode_round_trip_iff _ _ _ _ _ _ (by decide) (by decide)).2 (by decide)

/-- Three bytes into a buffer of three bytes. -/
theorem less_mode_overruns : ¬∀ (src key cip result : Bytes), cip.length = src.length → result.length = src.length →
    LessRoundTrip (fun _ _ => 0) (fun _ _ => 0) src key cip result := by
  intro hall
  obtain ⟨out, he, -, -⟩ := hall [1, 2, 3] [7] [0, 0, 0] [0, 0, 0] rfl rfl
  have hshort := @aesEncrypt_less_short [1, 2, 3] [0, 0, 0] 1 (fun _ _ => 0) [7] le_rfl rfl (by decide)
  cases he.symm.trans hshort

/-! ## When fill mode is ECB -/

/-- `out` is the ECB encryption of `p` under `k`: block by block, every block. -/
def IsEcb (k p out : Bytes) : Prop := ∀ i < p.length / 16, blockAt 16 out i = aes128 k (blockAt 16 p i)

/-- What has to be true of the message and of the buffer for the single call of `Cipher` to amount to
ECB: the first block was copied, and every later block already is its own encryption. -/
def TailEnciphered (k p cip : Bytes) : Prop :=
  blockAt 16 (staged p cip) 0 = blockAt 16 p 0 ∧
    ∀ i, 0 < i → i < p.length / 16 → blockAt 16 (staged p cip) i = aes128 k (blockAt 16 p i)

theorem length_blockAt {m : Bytes} {i : Nat} (h : i < m.length / 16) : (blockAt 16 m i).length = 16 :=
  length_slice (by omega)

theorem blockAt_encFirst_zero (k buf : Bytes) :
    blockAt 16 (encFirst k buf) 0 = aes128 k (blockAt 16 buf 0) := by
  have hl : (aes128 k (buf.take 16)).length = 16 := length_aes128 _ _
  simp only [blockAt, Nat.mul_zero, slice_zero_left, encFirst]
  exact List.take_left' hl

theorem blockAt_encFirst_succ (k : Bytes) {buf : Bytes} {i : Nat} (hi : 0 < i) (hb : 16 ≤ buf.length) :
    blockAt 16 (encFirst k buf) i = blockAt 16 buf i := by
  have hl : (aes128 k (buf.take 16)).length = 16 := length_aes128 _ _
  have ht : (buf.take 16).length = 16 := by simp [hb]
  unfold blockAt encFirst
  rw [slice_append_right (by omega), hl]
  conv_rhs => rw [← List.take_append_drop 16 buf]
  rw [slice_append_right (by omega), ht]

/-- The output of the primitive is ECB exactly when nothing was left for the missing iterations. -/
theorem encFirst_isEcb_iff (k : Bytes) {p cip : Bytes} (hp : 16 ≤ p.length) (hc : p.length ≤ cip.length) :
    IsEcb k p (encFirst k (staged p cip)) ↔ TailEnciphered k p cip := by
  have hst := length_staged hc
  constructor
  · intro h
    refine ⟨?_, fun i hi hlt => ?_⟩
    · have h0 := h 0 (by omega)
      rw [blockAt_encFirst_zero] at h0
      exact aes128_inj (length_blockAt (by omega)) (length_blockAt (by omega)) h0
    · rw [← blockAt_encFirst_succ k hi (by omega)]
      exact h i hlt
  · rintro ⟨h0, h1⟩ i hlt
    by_cases hi : i = 0
    · subst hi
      rw [blockAt_encFirst_zero, h0]
    · rw [blockAt_encFirst_succ k (by omega) (by omega)]
      exact h1 i (by omega) hlt

/-- Below the `uint32_t` limit the condition is about the message alone: it fits in one block, or every
later block is a fixed point of the cipher. -/
theorem tailEnciphered_iff {k src cip : Bytes} (h32 : roundUp src.length 16 < 2 ^ 32)
    (hc : cip.length = roundUp src.length 16) :
    TailEnciphered k (fillPad src) cip ↔
      src.length < 16 ∨ ∀ i, 0 < i → i < roundUp src.length 16 / 16 →
        aes128 k (blockAt 16 (fillPad src) i) = blockAt 16 (fillPad src) i := by
  have hp := length_fillPad src
  rw [TailEnciphered, staged_eq (by omega) (by omega), hp]
  constructor
  · rintro ⟨-, h⟩
    exact Or.inr fun i hi hlt => (h i hi hlt).symm
  · rintro (h | h)
    · refine ⟨rfl, fun i hi hlt => ?_⟩
      unfold roundUp at hlt
      omega
    · exact ⟨rfl, fun i hi hlt => (h i hi hlt).symm⟩

end SnakeSocks.Aes
