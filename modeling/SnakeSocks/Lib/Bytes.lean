import Mathlib.Data.List.Basic
import Mathlib.Tactic.Ring

/-!
# Byte strings: fixed-width numbers, slices and in-place writes

`leBytes k n` are the `k` little-endian bytes of `n`, `beBytes` the same in network order. A C block of
memory is its list of cells; `slice` reads a run of cells and `splice` overwrites one.
-/

namespace ByteLib

abbrev Bytes := List UInt8

/-! ## Numbers -/

def leBytes : Nat → Nat → Bytes
  | 0, _ => []
  | k + 1, n => UInt8.ofNat n :: leBytes k (n / 256)

def leNat : Bytes → Nat
  | [] => 0
  | b :: bs => b.toNat + 256 * leNat bs

def beBytes (k n : Nat) : Bytes := (leBytes k n).reverse

def beNat (bs : Bytes) : Nat := leNat bs.reverse

@[simp] theorem length_leBytes (k n : Nat) : (leBytes k n).length = k := by
  induction k generalizing n with
  | zero => rfl
  | succ k ih => simp [leBytes, ih]

@[simp] theorem length_beBytes (k n : Nat) : (beBytes k n).length = k := by simp [beBytes]

theorem leNat_leBytes (k n : Nat) (h : n < 256 ^ k) : leNat (leBytes k n) = n := by
  induction k generalizing n with
  | zero =>
    simp at h
    simp [leBytes, leNat, h]
  | succ k ih =>
    have hd : n / 256 < 256 ^ k := by
      rw [Nat.div_lt_iff_lt_mul (by omega)]
      rwa [pow_succ] at h
    simp only [leBytes, leNat, ih (n / 256) hd, UInt8.toNat_ofNat']
    omega

theorem leNat_lt (bs : Bytes) : leNat bs < 256 ^ bs.length := by
  induction bs with
  | nil => simp [leNat]
  | cons b bs ih =>
    have hb := b.toNat_lt
    simp only [leNat, List.length_cons, pow_succ]
    omega

theorem beNat_beBytes (k n : Nat) (h : n < 256 ^ k) : beNat (beBytes k n) = n := by
  simp [beNat, beBytes, leNat_leBytes k n h]

/-! ## Slices and in-place writes -/

section
variable {α : Type*}

/-- Cells `off .. off + n` of a block. -/
def slice (blk : List α) (off n : Nat) : List α := (blk.drop off).take n

/-- The block with `bs` written at `off`. -/
def splice (blk : List α) (off : Nat) (bs : List α) : List α :=
  blk.take off ++ bs ++ blk.drop (off + bs.length)

theorem length_slice {blk : List α} {off n : Nat} (h : off + n ≤ blk.length) :
    (slice blk off n).length = n := by
  simp [slice]; omega

theorem length_splice {blk : List α} {off : Nat} {bs : List α} (h : off + bs.length ≤ blk.length) :
    (splice blk off bs).length = blk.length := by
  simp [splice]; omega

@[simp] theorem slice_zero (blk : List α) (off : Nat) : slice blk off 0 = [] := by simp [slice]

theorem slice_all (blk : List α) : slice blk 0 blk.length = blk := by simp [slice]

theorem splice_zero (blk bs : List α) : splice blk 0 bs = bs ++ blk.drop bs.length := by
  simp [splice]

/-- A write at the seam of a concatenation. -/
theorem splice_seam {l r bs : List α} {off : Nat} (h : l.length = off) :
    splice (l ++ r) off bs = l ++ (bs ++ r.drop bs.length) := by
  subst h
  simp [splice]

theorem slice_zero_left (blk : List α) (n : Nat) : slice blk 0 n = blk.take n := by simp [slice]

theorem slice_append_left {l r : List α} {off n : Nat} (h : off + n ≤ l.length) :
    slice (l ++ r) off n = slice l off n := by
  unfold slice
  rw [List.drop_append_of_le_length (by omega), List.take_append_of_le_length (by simp; omega)]

theorem slice_append_right {l r : List α} {off n : Nat} (h : l.length ≤ off) :
    slice (l ++ r) off n = slice r (off - l.length) n := by
  unfold slice
  rw [List.drop_append, List.drop_of_length_le h, List.nil_append]

theorem slice_of_append {blk l r : List α} {off : Nat} (h : slice blk off (l ++ r).length = l ++ r) :
    slice blk off l.length = l := by
  calc slice blk off l.length = (slice blk off (l ++ r).length).take l.length := by
        simp [slice, List.take_take]
    _ = l := by rw [h, List.take_left]

/-- Two adjacent writes are one. -/
theorem splice_splice {blk l r : List α} {off : Nat} (h : off ≤ blk.length) :
    splice (splice blk off l) (off + l.length) r = splice blk off (l ++ r) := by
  have hl : (blk.take off ++ l).length = off + l.length := by simp [h]
  rw [splice, splice]
  rw [← splice, splice_seam hl, splice, List.drop_drop, List.length_append, Nat.add_assoc]
  simp

theorem slice_splice_same (blk : List α) (off : Nat) (bs : List α) (h : off ≤ blk.length) :
    slice (splice blk off bs) off bs.length = bs := by
  unfold slice splice
  have hl : (blk.take off).length = off := by simp [h]
  rw [List.append_assoc, List.drop_append_of_le_length (by omega), List.drop_of_length_le (by omega)]
  simp

theorem slice_splice_before {blk : List α} {off o n : Nat} {bs : List α} (h : o + n ≤ off)
    (hb : off ≤ blk.length) : slice (splice blk off bs) o n = slice blk o n := by
  have hl : (blk.take off).length = off := by simp [hb]
  unfold splice
  rw [List.append_assoc, slice_append_left (by omega)]
  conv_rhs => rw [← List.take_append_drop off blk]
  rw [slice_append_left (by omega)]

end

/-! ## Fixed-size blocks -/

/-- Block `i` of a message cut into blocks of `w` cells. -/
def blockAt (w : Nat) (m : Bytes) (i : Nat) : Bytes := slice m (w * i) w

end ByteLib
