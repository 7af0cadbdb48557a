import SnakeSocks.Lib.Bytes

/-!
# C memory: bounds-checked blocks

Every pointer of the modelled C code points into one block. A read or a write that leaves the block is
undefined behaviour in C; here it stops the computation with a `Fault`. `malloc` returns cells of
arbitrary content, given by `junk`.
-/

namespace CMem

open ByteLib

inductive Fault where
  | readOutside
  | writeOutside
  | nullPointer
  | uninitialised
deriving DecidableEq, Repr

section
variable {α : Type*}

/-- Read `n` cells at `off`. -/
def load (blk : List α) (off n : Nat) : Except Fault (List α) :=
  if off + n ≤ blk.length then .ok (slice blk off n) else .error .readOutside

/-- Write `bs` at `off`. -/
def store (blk : List α) (off : Nat) (bs : List α) : Except Fault (List α) :=
  if off + bs.length ≤ blk.length then .ok (splice blk off bs) else .error .writeOutside

/-- `memcpy(dst + doff, src + soff, n)`. -/
def memcpy (dst : List α) (doff : Nat) (src : List α) (soff n : Nat) : Except Fault (List α) := do
  let bs ← load src soff n
  store dst doff bs

/-- `memset(dst + off, c, n)`. -/
def memset (dst : List α) (off : Nat) (c : α) (n : Nat) : Except Fault (List α) :=
  store dst off (List.replicate n c)

/-- `malloc(n)`: the fresh cells hold whatever was there. A function that allocates several blocks takes
a `Junk` and uses `junk k` for its `k`-th block. -/
def malloc (junk : Nat → α) (n : Nat) : List α := (List.range n).map junk

@[simp] theorem length_malloc (junk : Nat → α) (n : Nat) : (malloc junk n).length = n := by
  simp [malloc]

theorem load_ok {blk : List α} {off n : Nat} (h : off + n ≤ blk.length) :
    load blk off n = .ok (slice blk off n) := by
  simp [load, h]

theorem load_error {blk : List α} {off n : Nat} (h : ¬off + n ≤ blk.length) :
    load blk off n = .error .readOutside := by
  simp [load, h]

theorem store_ok {blk : List α} {off : Nat} {bs : List α} (h : off + bs.length ≤ blk.length) :
    store blk off bs = .ok (splice blk off bs) := by
  simp [store, h]

theorem length_of_store {blk out : List α} {off : Nat} {bs : List α} (h : store blk off bs = .ok out) : out.length = blk.length := by
  unfold store at h
  split at h
  · next hle =>
    cases h
    exact length_splice hle
  · cases h

theorem memcpy_ok {dst src : List α} {doff soff n : Nat} (hs : soff + n ≤ src.length)
    (hd : doff + n ≤ dst.length) :
    memcpy dst doff src soff n = .ok (splice dst doff (slice src soff n)) := by
  have hn : (slice src soff n).length = n := length_slice hs
  rw [memcpy, load_ok hs]
  exact store_ok (by rw [hn]; exact hd)

/-- `memcpy` of a whole source block. -/
theorem memcpy_all (dst src : List α) (doff : Nat) (hd : doff + src.length ≤ dst.length) :
    memcpy dst doff src 0 src.length = .ok (splice dst doff src) := by
  rw [memcpy_ok (by omega) hd, slice_all]

theorem memset_ok {dst : List α} {off : Nat} {c : α} {n : Nat} (h : off + n ≤ dst.length) :
    memset dst off c n = .ok (splice dst off (List.replicate n c)) :=
  store_ok (by simpa using h)

/-- A zeroed block: `memset` over all of a fresh block. -/
theorem memset_all (dst : List α) (c : α) :
    memset dst 0 c dst.length = .ok (List.replicate dst.length c) := by
  rw [memset_ok (by omega)]
  simp [splice]

end

/-- What each fresh block of a call holds. -/
abbrev Junk := Nat → Nat → UInt8

/-! ## Cells that may be uninitialised -/

/-- A local array: `none` is a cell nothing was written to yet. -/
abbrev Cells := List (Option UInt8)

/-- The bytes of a run of cells, if all were written. -/
def initialised : Cells → Except Fault Bytes
  | [] => .ok []
  | some b :: cs => do
    let bs ← initialised cs
    return b :: bs
  | none :: _ => .error .uninitialised

/-- Read `n` bytes at `off`; every one must have been written. -/
def loadBytes (blk : Cells) (off n : Nat) : Except Fault Bytes := do
  let cs ← load blk off n
  initialised cs

theorem initialised_map_some (bs : Bytes) : initialised (bs.map some) = .ok bs := by
  induction bs with
  | nil => rfl
  | cons b bs ih =>
    rw [List.map_cons, initialised, ih]
    rfl

/-- Reading back from a run of received bytes. -/
theorem loadBytes_ok {blk : Cells} {off n : Nat} {bs : Bytes} (hb : off + n ≤ blk.length)
    (h : slice blk off n = bs.map some) : loadBytes blk off n = .ok bs := by
  rw [loadBytes, load_ok hb]
  exact h ▸ initialised_map_some bs

theorem length_of_loadBytes {blk : Cells} {off n : Nat} {bs : Bytes} (h : loadBytes blk off n = .ok bs) : off + n ≤ blk.length := by
  by_contra hout
  rw [loadBytes, load_error hout] at h
  cases h

/-- Read the one byte at `i`. -/
def byteAt (blk : Cells) (i : Nat) : Except Fault UInt8 :=
  match blk[i]? with
  | some (some b) => .ok b
  | some none => .error .uninitialised
  | none => .error .readOutside

/-- A local array whose first cells hold `bs` and whose last `k` cells are unwritten. -/
def filled (bs : Bytes) (k : Nat) : Cells := bs.map some ++ List.replicate k none

@[simp] theorem length_filled (bs : Bytes) (k : Nat) : (filled bs k).length = bs.length + k := by
  simp [filled]

theorem byteAt_filled {bs : Bytes} {k i : Nat} (h : i < bs.length) : byteAt (filled bs k) i = .ok (bs.getD i 0) := by
  have hi : (filled bs k)[i]? = some (some bs[i]) := by
    rw [filled, List.getElem?_append_left (by simpa using h)]
    simp [h]
  rw [byteAt, hi]
  simp [List.getD_eq_getElem?_getD, h]

theorem loadBytes_filled {bs : Bytes} {k off n : Nat} (h : off + n ≤ bs.length) :
    loadBytes (filled bs k) off n = .ok (slice bs off n) := by
  refine loadBytes_ok (by simp; omega) ?_
  rw [filled, slice_append_left (by simpa using h), slice, slice, List.map_take, List.map_drop]

/-- Overwriting a byte that is already there. -/
theorem store_filled {bs : Bytes} {k i : Nat} {b : UInt8} (h : i < bs.length) :
    store (filled bs k) i [some b] = .ok (filled (bs.set i b) k) := by
  rw [store_ok (by simp; omega), List.set_eq_take_append_cons_drop, if_pos h]
  have hi : i ≤ bs.length := by omega
  have hk : k - (i + 1 - bs.length) = k := by omega
  simp [filled, splice, List.take_append, List.drop_append, hi, hk]

/-- Filling the next cells. -/
theorem splice_filled (bs bs' : Bytes) (k : Nat) :
    splice (filled bs k) bs.length (bs'.map some) = filled (bs ++ bs') (k - bs'.length) := by
  rw [filled, splice_seam (by simp), filled]
  simp

/-- The C string at the start of a block. -/
def cString (bs : Bytes) : Bytes := bs.takeWhile (· ≠ 0)

theorem cString_eq_self_iff {bs : Bytes} : cString bs = bs ↔ 0 ∉ bs := by
  induction bs with
  | nil => exact iff_of_true rfl List.not_mem_nil
  | cons b bs ih =>
    rw [cString] at ih ⊢
    by_cases hb : b = 0
    · subst hb
      simp
    · have hne : ¬0 = b := fun he => hb he.symm
      simp only [List.takeWhile_cons, hb, ne_eq, not_false_eq_true, decide_true, if_true, List.cons.injEq, true_and,
        List.mem_cons, hne, false_or]
      exact ih

theorem nul_not_mem_cString (bs : Bytes) : 0 ∉ cString bs := by
  induction bs with
  | nil => exact List.not_mem_nil
  | cons b bs ih =>
    rw [cString] at ih ⊢
    by_cases hb : b = 0
    · simp [hb]
    · have hne : ¬0 = b := fun he => hb he.symm
      rw [List.takeWhile_cons_of_pos (by simpa using hb), List.mem_cons]
      simp only [hne, false_or]
      exact ih

/-- The bytes behind the first NUL do not count. -/
theorem cString_append_nul {bs : Bytes} (h : 0 ∉ bs) (tail : Bytes) : cString (bs ++ 0 :: tail) = bs := by
  induction bs with
  | nil => rfl
  | cons b bs ih =>
    have hne : b ≠ 0 := fun he => h (he ▸ List.mem_cons_self)
    have hrest := ih fun hm => h (List.mem_cons_of_mem _ hm)
    rw [cString] at hrest ⊢
    rw [List.cons_append, List.takeWhile_cons_of_pos (by simpa using hne), hrest]

/-! ## C strings -/

/-- `strncmp(a, b, n) == 0`: stops at the first difference or at a common terminator. -/
def strncmp : Bytes → Bytes → Nat → Except Fault Bool
  | _, _, 0 => .ok true
  | a :: as, b :: bs, n + 1 => if a ≠ b then .ok false else if a = 0 then .ok true else strncmp as bs n
  | _, _, _ + 1 => .error .readOutside

/-- Against a text without a NUL it says whether the other starts with that text. -/
theorem strncmp_prefix {p a : Bytes} (b : Bytes) (h : ∀ c ∈ p, c ≠ 0) (hl : p.length ≤ a.length) :
    strncmp a (p ++ b) p.length = .ok (decide (p <+: a)) := by
  induction p generalizing a with
  | nil => simp [strncmp]
  | cons c p ih =>
    cases a with
    | nil => simp at hl
    | cons d a =>
      have hc : c ≠ 0 := h c (by simp)
      by_cases hd : d = c
      · subst hd
        have ih := ih (fun e he => h e (by simp [he])) (by simpa using hl)
        simpa [strncmp, hc, List.cons_prefix_cons] using ih
      · have hcd : ¬c = d := fun he => hd he.symm
        simp [strncmp, hd, hcd, List.cons_prefix_cons]

/-- `sprintf` of a finished text: the text and its terminator are stored, the text's length returned. -/
def sprintf (buf : Bytes) (off : Nat) (text : Bytes) : Except Fault (Nat × Bytes) := do
  let buf ← store buf off (text ++ [0])
  return (text.length, buf)

/-- `%d` of a non-negative `int`. -/
def decimal (r : Nat) : Bytes := (Nat.toDigits 10 r).map fun c => UInt8.ofNat c.toNat

theorem length_decimal_pos (r : Nat) : 0 < (decimal r).length := by
  simpa [decimal] using Nat.length_toDigits_pos

theorem length_decimal_le {r k : Nat} (hk : 0 < k) (h : r < 10 ^ k) : (decimal r).length ≤ k := by
  simpa [decimal] using (Nat.length_toDigits_le_iff (by omega) hk).2 h

/-! ## Integer conversions -/

/-- The value of a byte read through a signed `char`. -/
def schar (b : UInt8) : Int := if b.toNat < 128 then b.toNat else (b.toNat : Int) - 256

/-- Conversion to a 64-bit `size_t`. -/
def sizeT (z : Int) : Nat := (z % 2 ^ 64).toNat

theorem schar_ofNat {n : Nat} (h : n < 128) : schar (UInt8.ofNat n) = n := by
  have hn : (UInt8.ofNat n).toNat = n := by simp; omega
  simp [schar, hn, h]

/-- A byte below 128 keeps its value on the way through `char` to `size_t`; the others wrap to the top. -/
theorem sizeT_schar (b : UInt8) :
    sizeT (schar b) = if b.toNat < 128 then b.toNat else 2 ^ 64 - 256 + b.toNat := by
  have hb := b.toNat_lt
  unfold sizeT schar
  split <;> omega

/-! ## Sequencing -/

section
variable {ε α β : Type}

@[simp] theorem ok_bind (a : α) (f : α → Except ε β) : (Except.ok a >>= f) = f a := rfl

@[simp] theorem error_bind (e : ε) (f : α → Except ε β) : (Except.error e >>= f) = .error e := rfl

@[simp] theorem pure_eq_ok (a : α) : (pure a : Except ε α) = .ok a := rfl

theorem bind_eq_ok {x : Except ε α} {f : α → Except ε β} {b : β} :
    (x >>= f) = .ok b ↔ ∃ a, x = .ok a ∧ f a = .ok b := by
  cases x <;> simp

end

end CMem
