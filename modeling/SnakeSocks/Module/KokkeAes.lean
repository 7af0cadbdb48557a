import SnakeSocks.Lib.CMem

/-!
# The 16-byte primitive of `module_util/kokke_aes.c`

| here | there |
| --- | --- |
| `Col`, `State`    | `state_t` (`kokke_aes.c:78`): `State` is `state[0..3]`, `Col` one `state[i][0..3]` |
| `keyExpansion`    | `KeyExpansion` (`:194`), word `i` is `RoundKey[4i .. 4i+3]` |
| `cipher`          | `Cipher` (`:431`) |
| `invCipher`       | `InvCipher` (`:456`) |
| `aesEcbEncrypt`   | `AES_ECB_encrypt` (`:488`) |
| `aesEcbDecrypt`   | `AES_ECB_decrypt` (`:504`) |

The build is AES-128 (`kokke_aes.h` defines `AES128`), so `Nk = 4` and `Nr = 10`. `invCipher_cipher` is
proved for every key schedule.
-/

namespace SnakeSocks.KokkeAes

open ByteLib CMem

/-- `sbox` (`kokke_aes.c:107`). -/
def sbox : List UInt8 :=
  [0x63, 0x7c, 0x77, 0x7b, 0xf2, 0x6b, 0x6f, 0xc5, 0x30, 0x01, 0x67, 0x2b, 0xfe, 0xd7, 0xab, 0x76,
   0xca, 0x82, 0xc9, 0x7d, 0xfa, 0x59, 0x47, 0xf0, 0xad, 0xd4, 0xa2, 0xaf, 0x9c, 0xa4, 0x72, 0xc0,
   0xb7, 0xfd, 0x93, 0x26, 0x36, 0x3f, 0xf7, 0xcc, 0x34, 0xa5, 0xe5, 0xf1, 0x71, 0xd8, 0x31, 0x15,
   0x04, 0xc7, 0x23, 0xc3, 0x18, 0x96, 0x05, 0x9a, 0x07, 0x12, 0x80, 0xe2, 0xeb, 0x27, 0xb2, 0x75,
   0x09, 0x83, 0x2c, 0x1a, 0x1b, 0x6e, 0x5a, 0xa0, 0x52, 0x3b, 0xd6, 0xb3, 0x29, 0xe3, 0x2f, 0x84,
   0x53, 0xd1, 0x00, 0xed, 0x20, 0xfc, 0xb1, 0x5b, 0x6a, 0xcb, 0xbe, 0x39, 0x4a, 0x4c, 0x58, 0xcf,
   0xd0, 0xef, 0xaa, 0xfb, 0x43, 0x4d, 0x33, 0x85, 0x45, 0xf9, 0x02, 0x7f, 0x50, 0x3c, 0x9f, 0xa8,
   0x51, 0xa3, 0x40, 0x8f, 0x92, 0x9d, 0x38, 0xf5, 0xbc, 0xb6, 0xda, 0x21, 0x10, 0xff, 0xf3, 0xd2,
   0xcd, 0x0c, 0x13, 0xec, 0x5f, 0x97, 0x44, 0x17, 0xc4, 0xa7, 0x7e, 0x3d, 0x64, 0x5d, 0x19, 0x73,
   0x60, 0x81, 0x4f, 0xdc, 0x22, 0x2a, 0x90, 0x88, 0x46, 0xee, 0xb8, 0x14, 0xde, 0x5e, 0x0b, 0xdb,
   0xe0, 0x32, 0x3a, 0x0a, 0x49, 0x06, 0x24, 0x5c, 0xc2, 0xd3, 0xac, 0x62, 0x91, 0x95, 0xe4, 0x79,
   0xe7, 0xc8, 0x37, 0x6d, 0x8d, 0xd5, 0x4e, 0xa9, 0x6c, 0x56, 0xf4, 0xea, 0x65, 0x7a, 0xae, 0x08,
   0xba, 0x78, 0x25, 0x2e, 0x1c, 0xa6, 0xb4, 0xc6, 0xe8, 0xdd, 0x74, 0x1f, 0x4b, 0xbd, 0x8b, 0x8a,
   0x70, 0x3e, 0xb5, 0x66, 0x48, 0x03, 0xf6, 0x0e, 0x61, 0x35, 0x57, 0xb9, 0x86, 0xc1, 0x1d, 0x9e,
   0xe1, 0xf8, 0x98, 0x11, 0x69, 0xd9, 0x8e, 0x94, 0x9b, 0x1e, 0x87, 0xe9, 0xce, 0x55, 0x28, 0xdf,
   0x8c, 0xa1, 0x89, 0x0d, 0xbf, 0xe6, 0x42, 0x68, 0x41, 0x99, 0x2d, 0x0f, 0xb0, 0x54, 0xbb, 0x16]

/-- `rsbox` (`kokke_aes.c:126`). -/
def rsbox : List UInt8 :=
  [0x52, 0x09, 0x6a, 0xd5, 0x30, 0x36, 0xa5, 0x38, 0xbf, 0x40, 0xa3, 0x9e, 0x81, 0xf3, 0xd7, 0xfb,
   0x7c, 0xe3, 0x39, 0x82, 0x9b, 0x2f, 0xff, 0x87, 0x34, 0x8e, 0x43, 0x44, 0xc4, 0xde, 0xe9, 0xcb,
   0x54, 0x7b, 0x94, 0x32, 0xa6, 0xc2, 0x23, 0x3d, 0xee, 0x4c, 0x95, 0x0b, 0x42, 0xfa, 0xc3, 0x4e,
   0x08, 0x2e, 0xa1, 0x66, 0x28, 0xd9, 0x24, 0xb2, 0x76, 0x5b, 0xa2, 0x49, 0x6d, 0x8b, 0xd1, 0x25,
   0x72, 0xf8, 0xf6, 0x64, 0x86, 0x68, 0x98, 0x16, 0xd4, 0xa4, 0x5c, 0xcc, 0x5d, 0x65, 0xb6, 0x92,
   0x6c, 0x70, 0x48, 0x50, 0xfd, 0xed, 0xb9, 0xda, 0x5e, 0x15, 0x46, 0x57, 0xa7, 0x8d, 0x9d, 0x84,
   0x90, 0xd8, 0xab, 0x00, 0x8c, 0xbc, 0xd3, 0x0a, 0xf7, 0xe4, 0x58, 0x05, 0xb8, 0xb3, 0x45, 0x06,
   0xd0, 0x2c, 0x1e, 0x8f, 0xca, 0x3f, 0x0f, 0x02, 0xc1, 0xaf, 0xbd, 0x03, 0x01, 0x13, 0x8a, 0x6b,
   0x3a, 0x91, 0x11, 0x41, 0x4f, 0x67, 0xdc, 0xea, 0x97, 0xf2, 0xcf, 0xce, 0xf0, 0xb4, 0xe6, 0x73,
   0x96, 0xac, 0x74, 0x22, 0xe7, 0xad, 0x35, 0x85, 0xe2, 0xf9, 0x37, 0xe8, 0x1c, 0x75, 0xdf, 0x6e,
   0x47, 0xf1, 0x1a, 0x71, 0x1d, 0x29, 0xc5, 0x89, 0x6f, 0xb7, 0x62, 0x0e, 0xaa, 0x18, 0xbe, 0x1b,
   0xfc, 0x56, 0x3e, 0x4b, 0xc6, 0xd2, 0x79, 0x20, 0x9a, 0xdb, 0xc0, 0xfe, 0x78, 0xcd, 0x5a, 0xf4,
   0x1f, 0xdd, 0xa8, 0x33, 0x88, 0x07, 0xc7, 0x31, 0xb1, 0x12, 0x10, 0x59, 0x27, 0x80, 0xec, 0x5f,
   0x60, 0x51, 0x7f, 0xa9, 0x19, 0xb5, 0x4a, 0x0d, 0x2d, 0xe5, 0x7a, 0x9f, 0x93, 0xc9, 0x9c, 0xef,
   0xa0, 0xe0, 0x3b, 0x4d, 0xae, 0x2a, 0xf5, 0xb0, 0xc8, 0xeb, 0xbb, 0x3c, 0x83, 0x53, 0x99, 0x61,
   0x17, 0x2b, 0x04, 0x7e, 0xba, 0x77, 0xd6, 0x26, 0xe1, 0x69, 0x14, 0x63, 0x55, 0x21, 0x0c, 0x7d]

/-- `Rcon` (`kokke_aes.c:146`). -/
def rcon : List UInt8 := [0x8d, 0x01, 0x02, 0x04, 0x08, 0x10, 0x20, 0x40, 0x80, 0x1b, 0x36]

def getSBoxValue (num : UInt8) : UInt8 := sbox.getD num.toNat 0

def getSBoxInvert (num : UInt8) : UInt8 := rsbox.getD num.toNat 0

/-! ## State -/

@[ext] structure Col where
  b0 : UInt8
  b1 : UInt8
  b2 : UInt8
  b3 : UInt8
deriving DecidableEq, Repr

@[ext] structure State where
  w0 : Col
  w1 : Col
  w2 : Col
  w3 : Col
deriving DecidableEq, Repr

def Col.map (f : UInt8 → UInt8) (c : Col) : Col := ⟨f c.b0, f c.b1, f c.b2, f c.b3⟩

def Col.xor (c d : Col) : Col := ⟨c.b0 ^^^ d.b0, c.b1 ^^^ d.b1, c.b2 ^^^ d.b2, c.b3 ^^^ d.b3⟩

def State.map (f : Col → Col) (s : State) : State := ⟨f s.w0, f s.w1, f s.w2, f s.w3⟩

/-- The cast `(state_t*)output`: word `i` of the block at `blk`. -/
def Col.ofBytes (blk : Bytes) (i : Nat) : Col :=
  ⟨blk.getD (4 * i) 0, blk.getD (4 * i + 1) 0, blk.getD (4 * i + 2) 0, blk.getD (4 * i + 3) 0⟩

def Col.toBytes (c : Col) : Bytes := [c.b0, c.b1, c.b2, c.b3]

def State.ofBytes (blk : Bytes) : State :=
  ⟨.ofBytes blk 0, .ofBytes blk 1, .ofBytes blk 2, .ofBytes blk 3⟩

def State.toBytes (s : State) : Bytes := s.w0.toBytes ++ s.w1.toBytes ++ s.w2.toBytes ++ s.w3.toBytes

@[simp] theorem State.length_toBytes (s : State) : s.toBytes.length = 16 := rfl

@[simp] theorem State.ofBytes_toBytes (s : State) : State.ofBytes s.toBytes = s := rfl

theorem State.toBytes_ofBytes : ∀ {blk : Bytes}, blk.length = 16 → (State.ofBytes blk).toBytes = blk
  | [_, _, _, _, _, _, _, _, _, _, _, _, _, _, _, _], _ => rfl

/-! ## The rounds -/

/-- `xtime` (`kokke_aes.c:324`). -/
def xtime (x : UInt8) : UInt8 := (x <<< 1) ^^^ (((x >>> 7) &&& 1) * 0x1b)

/-- `Multiply` (`kokke_aes.c:356`); `bit k` is `y>>k & 1`. -/
def multiply (x y : UInt8) : UInt8 :=
  let bit (k : UInt8) : UInt8 := (y >>> k) &&& 1
  (bit 0 * x) ^^^ (bit 1 * xtime x) ^^^ (bit 2 * xtime (xtime x)) ^^^
    (bit 3 * xtime (xtime (xtime x))) ^^^ (bit 4 * xtime (xtime (xtime (xtime x))))

/-- One iteration of the second loop of `KeyExpansion`: word `i` from the `i` words before it. -/
def expandWord (rk : List Col) (i : Nat) : List Col :=
  let tempa := rk.getD (i - 1) ⟨0, 0, 0, 0⟩
  let tempa :=
    if i % 4 = 0 then
      -- RotWord, then SubWord, then the round constant
      let t : Col := (Col.mk tempa.b1 tempa.b2 tempa.b3 tempa.b0).map getSBoxValue
      { t with b0 := t.b0 ^^^ rcon.getD (i / 4) 0 }
    else tempa
  rk ++ [(rk.getD (i - 4) ⟨0, 0, 0, 0⟩).xor tempa]

def keyExpansion (key : Bytes) : List Col :=
  (List.range' 4 40).foldl expandWord ((List.range 4).map (Col.ofBytes key))

/-- Words `4 * round ..` of the schedule. -/
def roundKey (rk : List Col) (round : Nat) : State :=
  ⟨rk.getD (4 * round) ⟨0, 0, 0, 0⟩, rk.getD (4 * round + 1) ⟨0, 0, 0, 0⟩,
    rk.getD (4 * round + 2) ⟨0, 0, 0, 0⟩, rk.getD (4 * round + 3) ⟨0, 0, 0, 0⟩⟩

def addRoundKey (rk : List Col) (round : Nat) (s : State) : State :=
  let k := roundKey rk round
  ⟨s.w0.xor k.w0, s.w1.xor k.w1, s.w2.xor k.w2, s.w3.xor k.w3⟩

def subBytes (s : State) : State := s.map (Col.map getSBoxValue)

def invSubBytes (s : State) : State := s.map (Col.map getSBoxInvert)

/-- `ShiftRows` (`kokke_aes.c:296`): byte `j` of every word moves `j` words down. -/
def shiftRows (s : State) : State :=
  ⟨⟨s.w0.b0, s.w1.b1, s.w2.b2, s.w3.b3⟩, ⟨s.w1.b0, s.w2.b1, s.w3.b2, s.w0.b3⟩,
    ⟨s.w2.b0, s.w3.b1, s.w0.b2, s.w1.b3⟩, ⟨s.w3.b0, s.w0.b1, s.w1.b2, s.w2.b3⟩⟩

/-- `InvShiftRows` (`kokke_aes.c:401`). -/
def invShiftRows (s : State) : State :=
  ⟨⟨s.w0.b0, s.w3.b1, s.w2.b2, s.w1.b3⟩, ⟨s.w1.b0, s.w0.b1, s.w3.b2, s.w2.b3⟩,
    ⟨s.w2.b0, s.w1.b1, s.w0.b2, s.w3.b3⟩, ⟨s.w3.b0, s.w2.b1, s.w1.b2, s.w0.b3⟩⟩

/-- One iteration of `MixColumns` (`kokke_aes.c:330`). -/
def mixCol (c : Col) : Col :=
  let tmp := c.b0 ^^^ c.b1 ^^^ c.b2 ^^^ c.b3
  ⟨c.b0 ^^^ (xtime (c.b0 ^^^ c.b1) ^^^ tmp), c.b1 ^^^ (xtime (c.b1 ^^^ c.b2) ^^^ tmp),
    c.b2 ^^^ (xtime (c.b2 ^^^ c.b3) ^^^ tmp), c.b3 ^^^ (xtime (c.b3 ^^^ c.b0) ^^^ tmp)⟩

def mixColumns (s : State) : State := s.map mixCol

/-- One iteration of `InvMixColumns` (`kokke_aes.c:368`). -/
def invMixCol (c : Col) : Col :=
  ⟨multiply c.b0 0x0e ^^^ multiply c.b1 0x0b ^^^ multiply c.b2 0x0d ^^^ multiply c.b3 0x09,
    multiply c.b0 0x09 ^^^ multiply c.b1 0x0e ^^^ multiply c.b2 0x0b ^^^ multiply c.b3 0x0d,
    multiply c.b0 0x0d ^^^ multiply c.b1 0x09 ^^^ multiply c.b2 0x0e ^^^ multiply c.b3 0x0b,
    multiply c.b0 0x0b ^^^ multiply c.b1 0x0d ^^^ multiply c.b2 0x09 ^^^ multiply c.b3 0x0e⟩

def invMixColumns (s : State) : State := s.map invMixCol

/-- The body of `Cipher`'s loop (`kokke_aes.c:441`). -/
def cipherRound (rk : List Col) (s : State) (round : Nat) : State :=
  addRoundKey rk round (mixColumns (shiftRows (subBytes s)))

/-- The body of `InvCipher`'s loop (`kokke_aes.c:466`). -/
def invCipherRound (rk : List Col) (s : State) (round : Nat) : State :=
  invMixColumns (addRoundKey rk round (invSubBytes (invShiftRows s)))

def cipher (rk : List Col) (s : State) : State :=
  let s := (List.range' 1 9).foldl (cipherRound rk) (addRoundKey rk 0 s)
  addRoundKey rk 10 (shiftRows (subBytes s))

def invCipher (rk : List Col) (s : State) : State :=
  let s := (List.range' 1 9).reverse.foldl (invCipherRound rk) (addRoundKey rk 10 s)
  addRoundKey rk 0 (invSubBytes (invShiftRows s))

/-- The block cipher under a 16-byte key: `KeyExpansion`, then `Cipher`. -/
def aes128 (key blk : Bytes) : Bytes := (cipher (keyExpansion key) (.ofBytes blk)).toBytes

def invAes128 (key blk : Bytes) : Bytes := (invCipher (keyExpansion key) (.ofBytes blk)).toBytes

@[simp] theorem length_aes128 (key blk : Bytes) : (aes128 key blk).length = 16 := rfl

@[simp] theorem length_invAes128 (key blk : Bytes) : (invAes128 key blk).length = 16 := rfl

/-! ## `InvCipher` undoes `Cipher` -/

/-- A property of bytes checked on all 256 of them. -/
theorem forall_byte {p : UInt8 → Prop} [DecidablePred p]
    (h : (List.range 256).all (fun n => decide (p (UInt8.ofNat n))) = true) (x : UInt8) : p x := by
  simp only [List.all_eq_true, List.mem_range, decide_eq_true_eq] at h
  have hx := h x.toNat x.toNat_lt
  rwa [UInt8.ofNat_toNat] at hx

/-- The two tables are inverse, row by row of `sbox`. -/
theorem rsbox_sbox : sbox.map getSBoxInvert = (List.range 256).map UInt8.ofNat := by decide +kernel

theorem getSBoxInvert_getSBoxValue (x : UInt8) : getSBoxInvert (getSBoxValue x) = x := by
  have hlen : x.toNat < sbox.length := by
    have h256 : sbox.length = 256 := by decide +kernel
    rw [h256]
    exact x.toNat_lt
  have h := congrArg (fun l => l[x.toNat]?) rsbox_sbox
  simp only [List.getElem?_map, List.getElem?_eq_getElem hlen, List.getElem?_range x.toNat_lt,
    Option.map_some, Option.some.injEq, UInt8.ofNat_toNat] at h
  rwa [getSBoxValue, List.getD_eq_getElem?_getD, List.getElem?_eq_getElem hlen, Option.getD_some]

theorem invSubBytes_subBytes (s : State) : invSubBytes (subBytes s) = s := by
  simp [invSubBytes, subBytes, State.map, Col.map, getSBoxInvert_getSBoxValue]

theorem invShiftRows_shiftRows (s : State) : invShiftRows (shiftRows s) = s := rfl

theorem Col.xor_xor_self (c d : Col) : (c.xor d).xor d = c := by
  simp only [Col.xor, UInt8.xor_assoc, UInt8.xor_self, UInt8.xor_zero]

theorem addRoundKey_addRoundKey (rk : List Col) (round : Nat) (s : State) :
    addRoundKey rk round (addRoundKey rk round s) = s := by
  simp [addRoundKey, Col.xor_xor_self]

/-- `xtime` adds the reduction polynomial exactly when the top bit is set. -/
theorem xtime_eq (x : UInt8) : xtime x = (x <<< 1) ^^^ (if x.toBitVec.msb then 0x1b else 0) :=
  forall_byte (p := fun x => xtime x = (x <<< 1) ^^^ (if x.toBitVec.msb then 0x1b else 0))
    (by decide +kernel) x

@[simp] theorem xtime_zero : xtime 0 = 0 := rfl

theorem xtime_xor (a b : UInt8) : xtime (a ^^^ b) = xtime a ^^^ xtime b := by
  have hs : (a ^^^ b) <<< 1 = (a <<< 1) ^^^ (b <<< 1) := by
    apply UInt8.toBitVec_inj.1
    simp [BitVec.shiftLeft_xor_distrib]
  have hc : ∀ p q r t : UInt8, (p ^^^ q) ^^^ (r ^^^ t) = (p ^^^ r) ^^^ (q ^^^ t) := by intros; ac_rfl
  rw [xtime_eq, xtime_eq a, xtime_eq b, hs, hc, UInt8.toBitVec_xor, BitVec.msb_xor]
  congr 1
  cases a.toBitVec.msb <;> cases b.toBitVec.msb <;> rfl

/-- The four multipliers of `InvMixColumns` as polynomials in `xtime`. -/
theorem multiply_consts (x : UInt8) :
    multiply x 0x0e = xtime x ^^^ xtime (xtime x) ^^^ xtime (xtime (xtime x)) ∧
    multiply x 0x0b = x ^^^ xtime x ^^^ xtime (xtime (xtime x)) ∧
    multiply x 0x0d = x ^^^ xtime (xtime x) ^^^ xtime (xtime (xtime x)) ∧
    multiply x 0x09 = x ^^^ xtime (xtime (xtime x)) := by
  have e : ∀ y b0 b1 b2 b3 b4 : UInt8, (y >>> 0) &&& 1 = b0 → (y >>> 1) &&& 1 = b1 → (y >>> 2) &&& 1 = b2 →
      (y >>> 3) &&& 1 = b3 → (y >>> 4) &&& 1 = b4 →
      multiply x y = (b0 * x) ^^^ (b1 * xtime x) ^^^ (b2 * xtime (xtime x)) ^^^
        (b3 * xtime (xtime (xtime x))) ^^^ (b4 * xtime (xtime (xtime (xtime x)))) := by
    rintro y _ _ _ _ _ rfl rfl rfl rfl rfl
    rfl
  refine ⟨?_, ?_, ?_, ?_⟩
  · rw [e 0x0e 0 1 1 1 0 rfl rfl rfl rfl rfl]; simp
  · rw [e 0x0b 1 1 0 1 0 rfl rfl rfl rfl rfl]; simp
  · rw [e 0x0d 1 0 1 1 0 rfl rfl rfl rfl rfl]; simp
  · rw [e 0x09 1 0 0 1 0 rfl rfl rfl rfl rfl]; simp

theorem mixCol_xor (c d : Col) : mixCol (c.xor d) = (mixCol c).xor (mixCol d) := by
  simp only [mixCol, Col.xor, xtime_xor, Col.mk.injEq]
  refine ⟨?_, ?_, ?_, ?_⟩ <;> ac_rfl

theorem invMixCol_xor (c d : Col) : invMixCol (c.xor d) = (invMixCol c).xor (invMixCol d) := by
  simp only [invMixCol, Col.xor, multiply_consts, xtime_xor, Col.mk.injEq]
  refine ⟨?_, ?_, ?_, ?_⟩ <;> ac_rfl

/-- On a column with one non-zero byte the products cancel as polynomials, before any reduction. -/
theorem invMixCol_mixCol_unit (x : UInt8) :
    invMixCol (mixCol ⟨x, 0, 0, 0⟩) = ⟨x, 0, 0, 0⟩ ∧ invMixCol (mixCol ⟨0, x, 0, 0⟩) = ⟨0, x, 0, 0⟩ ∧
    invMixCol (mixCol ⟨0, 0, x, 0⟩) = ⟨0, 0, x, 0⟩ ∧ invMixCol (mixCol ⟨0, 0, 0, x⟩) = ⟨0, 0, 0, x⟩ := by
  have hl : ∀ a b c : UInt8, a ^^^ (b ^^^ c) = b ^^^ (a ^^^ c) := by intros; ac_rfl
  have hc : ∀ a b : UInt8, a ^^^ (a ^^^ b) = b := by intro a b; rw [← UInt8.xor_assoc]; simp
  refine ⟨?_, ?_, ?_, ?_⟩ <;>
    simp only [mixCol, invMixCol, multiply_consts, xtime_xor, xtime_zero, UInt8.xor_zero, UInt8.zero_xor,
      UInt8.xor_self, Col.mk.injEq] <;>
    refine ⟨?_, ?_, ?_, ?_⟩ <;>
    simp only [UInt8.xor_assoc, UInt8.xor_comm, hl, hc, UInt8.xor_self, UInt8.xor_zero]

theorem invMixCol_mixCol (c : Col) : invMixCol (mixCol c) = c := by
  obtain ⟨p, q, r, t⟩ := c
  have e : (⟨p, q, r, t⟩ : Col) =
      (((⟨p, 0, 0, 0⟩ : Col).xor ⟨0, q, 0, 0⟩).xor ⟨0, 0, r, 0⟩).xor ⟨0, 0, 0, t⟩ := by simp [Col.xor]
  rw [e]
  simp only [mixCol_xor, invMixCol_xor, invMixCol_mixCol_unit]

theorem invMixColumns_mixColumns (s : State) : invMixColumns (mixColumns s) = s := by
  simp [invMixColumns, mixColumns, State.map, invMixCol_mixCol]

theorem invCipherRound_cipherRound (rk : List Col) (s : State) (r : Nat) :
    invCipherRound rk (shiftRows (subBytes (cipherRound rk s r))) r = shiftRows (subBytes s) := by
  simp only [invCipherRound, invShiftRows_shiftRows, invSubBytes_subBytes]
  simp only [cipherRound, addRoundKey_addRoundKey, invMixColumns_mixColumns]

/-- The loop of `InvCipher` consumes the rounds of `Cipher` from the last to the first. -/
theorem invCipherRound_fold (rk : List Col) (rs : List Nat) (s : State) :
    rs.reverse.foldl (invCipherRound rk) (shiftRows (subBytes (rs.foldl (cipherRound rk) s))) =
      shiftRows (subBytes s) := by
  induction rs generalizing s with
  | nil => rfl
  | cons r rs ih =>
    rw [List.reverse_cons, List.foldl_append]
    simp only [List.foldl_cons, List.foldl_nil]
    rw [ih]
    exact invCipherRound_cipherRound rk s r

theorem invCipher_cipher (rk : List Col) (s : State) : invCipher rk (cipher rk s) = s := by
  simp only [invCipher, cipher, addRoundKey_addRoundKey, invCipherRound_fold, invShiftRows_shiftRows,
    invSubBytes_subBytes]

theorem invAes128_aes128 (key : Bytes) {blk : Bytes} (h : blk.length = 16) :
    invAes128 key (aes128 key blk) = blk := by
  simp only [invAes128, aes128, State.ofBytes_toBytes, invCipher_cipher, State.toBytes_ofBytes h]

theorem aes128_inj {key b c : Bytes} (hb : b.length = 16) (hc : c.length = 16)
    (h : aes128 key b = aes128 key c) : b = c := by
  rw [← invAes128_aes128 key hb, h, invAes128_aes128 key hc]

/-! ## The public functions -/

/-- `AES_ECB_encrypt` (`kokke_aes.c:488`). `length` is a `uint32_t` and only says how much to copy:
`Cipher` then works on the 16 bytes at `output`. -/
def aesEcbEncrypt (input key output : Bytes) (length : Nat) : Except Fault Bytes := do
  let output ← memcpy output 0 input 0 (length % 2 ^ 32)
  let key ← load key 0 16
  let state ← load output 0 16
  store output 0 (aes128 key state)

/-- `AES_ECB_decrypt` (`kokke_aes.c:504`). -/
def aesEcbDecrypt (input key output : Bytes) (length : Nat) : Except Fault Bytes := do
  let output ← memcpy output 0 input 0 (length % 2 ^ 32)
  let key ← load key 0 16
  let state ← load output 0 16
  store output 0 (invAes128 key state)

/-- The vector of the file's header comment (`kokke_aes.c:9-25`), first block. -/
example : aes128
    [0x2b, 0x7e, 0x15, 0x16, 0x28, 0xae, 0xd2, 0xa6, 0xab, 0xf7, 0x15, 0x88, 0x09, 0xcf, 0x4f, 0x3c]
    [0x6b, 0xc1, 0xbe, 0xe2, 0x2e, 0x40, 0x9f, 0x96, 0xe9, 0x3d, 0x7e, 0x11, 0x73, 0x93, 0x17, 0x2a] =
    [0x3a, 0xd7, 0x7b, 0xb4, 0x0d, 0x7a, 0x36, 0x60, 0xa8, 0x9e, 0xca, 0xf3, 0x24, 0x66, 0xef, 0x97] := by
  decide +kernel

end SnakeSocks.KokkeAes
