import Mathlib.Data.List.Basic

/-!
# What a trace leaves open

Events open and close handles, as `change` says. `openAfter change start t` are the handles open behind the trace `t`, or
`none` if `t` closes a handle that is not open. A handle that is closed may be opened again, so "closed exactly once" is
said of the table and not by counting: no close fails, and the handle is not in the table at the end.
-/

namespace Ledger

variable {ε ρ : Type}

/-- What one event does to the table. -/
inductive Change (ρ : Type) where
  | opens (r : ρ)
  | closes (r : ρ)
  | keeps

variable [DecidableEq ρ]

def Change.apply (held : List ρ) : Change ρ → Option (List ρ)
  | .opens r => some (r :: held)
  | .closes r => if r ∈ held then some (held.erase r) else none
  | .keeps => some held

variable (change : ε → Change ρ)

def openAfter (held : List ρ) (t : List ε) : Option (List ρ) := t.foldlM (fun held e => (change e).apply held) held

/-- `r` is open behind `t`. -/
def IsOpen (held : List ρ) (t : List ε) (r : ρ) : Prop := ∃ held', openAfter change held t = some held' ∧ r ∈ held'

variable {change} {held held' : List ρ} {t u : List ε} {e : ε} {r : ρ}

@[simp]
theorem openAfter_nil : openAfter change held [] = some held := rfl

theorem openAfter_append (ht : openAfter change held t = some held') :
    openAfter change held (t ++ u) = openAfter change held' u := by
  rw [openAfter, List.foldlM_append]
  show (openAfter change held t).bind _ = _
  rw [ht]
  rfl

theorem openAfter_cons (h : (change e).apply held = some held') :
    openAfter change held (e :: t) = openAfter change held' t := by
  rw [openAfter, List.foldlM_cons, h]
  rfl

theorem openAfter_keeps (h : change e = .keeps) : openAfter change held (e :: t) = openAfter change held t :=
  openAfter_cons (by rw [h, Change.apply])

theorem openAfter_opens (h : change e = .opens r) : openAfter change held (e :: t) = openAfter change (r :: held) t :=
  openAfter_cons (by rw [h, Change.apply])

theorem openAfter_closes (h : change e = .closes r) : openAfter change (r :: held) (e :: t) = openAfter change held t :=
  openAfter_cons (by simp [h, Change.apply])

/-- Events that neither open nor close. -/
theorem openAfter_inert (h : ∀ e ∈ t, change e = .keeps) : openAfter change held t = some held := by
  induction t with
  | nil => rfl
  | cons e t ih =>
    rw [openAfter_keeps (h e List.mem_cons_self)]
    exact ih fun e he => h e (List.mem_cons_of_mem _ he)

theorem Change.apply_perm {c : Change ρ} {a : List ρ} (hp : held.Perm held') (h : c.apply held = some a) :
    ∃ b, c.apply held' = some b ∧ a.Perm b := by
  cases c with
  | opens r =>
    cases h
    exact ⟨_, rfl, hp.cons r⟩
  | closes r =>
    by_cases hm : r ∈ held
    · rw [Change.apply, if_pos hm] at h
      cases h
      exact ⟨_, if_pos (hp.mem_iff.1 hm), hp.erase r⟩
    · rw [Change.apply, if_neg hm] at h
      cases h
  | keeps =>
    cases h
    exact ⟨held', rfl, hp⟩

/-- The order in the table does not matter. -/
theorem openAfter_perm {a : List ρ} (hp : held.Perm held') (h : openAfter change held t = some a) :
    ∃ b, openAfter change held' t = some b ∧ a.Perm b := by
  induction t generalizing held held' with
  | nil =>
    cases h
    exact ⟨held', rfl, hp⟩
  | cons e t ih =>
    cases he : (change e).apply held with
    | none =>
      rw [openAfter, List.foldlM_cons, he] at h
      cases h
    | some held₁ =>
      obtain ⟨held₁', he', hp'⟩ := Change.apply_perm hp he
      rw [openAfter_cons he] at h
      rw [openAfter_cons he']
      exact ih hp' h

end Ledger
