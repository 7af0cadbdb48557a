import Mathlib.Algebra.BigOperators.Group.Finset.Basic
import Mathlib.Algebra.Order.BigOperators.Group.Finset
import Mathlib.Data.Fintype.Card
import Mathlib.Data.Fintype.BigOperators

/-!
# How many holders a token has

A token may be held by the elements of a list and by the members of a finite family. Moving it from one holder to
another takes one from a count and adds one to another; the lemmas say so without a subtraction.
-/

namespace Tally

variable {α ι : Type}

/-- The members of a family that satisfy `p`. -/
def tally [Fintype ι] (p : α → Bool) (f : ι → α) : Nat := ∑ i, (p (f i)).toNat

section
variable [Fintype ι] {p : α → Bool} {f : ι → α}

@[simp]
theorem tally_const_false {a : α} (h : p a = false) : tally p (fun _ : ι => a) = 0 := by
  simp [tally, h]

variable [DecidableEq ι]

/-- One member changes. -/
theorem tally_update (i : ι) (a : α) :
    tally p (Function.update f i a) + (p (f i)).toNat = tally p f + (p a).toNat := by
  have hu : (fun j => (p (Function.update f i a j)).toNat) = Function.update (fun j => (p (f j)).toNat) i (p a).toNat := by
    ext j
    by_cases hj : j = i
    · subst hj
      simp
    · simp [hj]
  have hf := Finset.add_sum_erase Finset.univ (fun j => (p (f j)).toNat) (Finset.mem_univ i)
  rw [tally, tally, hu, Finset.sum_update_of_mem (Finset.mem_univ i), Finset.sdiff_singleton_eq_erase]
  omega

end

section
variable {l : List α} {a : α}

theorem countP_cons (p : α → Bool) : (a :: l).countP p = l.countP p + (p a).toNat := by
  rw [List.countP_cons]
  cases p a <;> rfl

theorem countP_concat (p : α → Bool) : (l ++ [a]).countP p = l.countP p + (p a).toNat := by
  rw [List.countP_append, countP_cons, List.countP_nil, Nat.zero_add]

/-- One element of a list is taken out. -/
theorem countP_erase [DecidableEq α] (p : α → Bool) (h : a ∈ l) : (l.erase a).countP p + (p a).toNat = l.countP p := by
  rw [(List.perm_cons_erase h).countP_eq p, countP_cons]

theorem count_cons [DecidableEq α] (b : α) : (a :: l).count b = l.count b + (a == b).toNat := countP_cons _

theorem count_concat [DecidableEq α] (b : α) : (l ++ [a]).count b = l.count b + (a == b).toNat := countP_concat _

/-- Pigeonhole: a list without repetition that misses a value is shorter than the type is large. -/
theorem length_lt_card [Fintype α] (hn : l.Nodup) (ha : a ∉ l) : l.length < Fintype.card α := by
  have hle := (List.nodup_cons.2 ⟨ha, hn⟩).length_le_card
  rwa [List.length_cons] at hle

end

end Tally
