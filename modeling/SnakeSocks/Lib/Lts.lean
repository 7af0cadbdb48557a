import Mathlib.Data.List.Basic

/-!
# Guarded transition systems

A system has states, labelled actions, a guard `enabled` and an effect `next`. `Reach P` are the states
of runs whose every step satisfies `P` in the state it leaves; `Reach (fun _ _ => True)` is plain
reachability. An invariant of the runs is shown once for the initial state and once for a step.
-/

namespace Lts

structure System (σ α : Type) where
  init : σ
  enabled : σ → α → Prop
  next : σ → α → σ

namespace System
variable {σ α : Type} (S : System σ α)

/-- States reached by runs whose steps all satisfy `P`. -/
inductive Reach (P : σ → α → Prop) : σ → Prop
  | init : Reach P S.init
  | step {s : σ} (a : α) : Reach P s → S.enabled s a → P s a → Reach P (S.next s a)

/-- All reachable states. -/
def Reachable (s : σ) : Prop := S.Reach (fun _ _ => True) s

/-- A run from one state to another whose steps all satisfy `P`. -/
inductive Path (P : σ → α → Prop) : σ → σ → Prop
  | refl (s : σ) : Path P s s
  | step {s t : σ} (a : α) : S.enabled s a → P s a → Path P (S.next s a) t → Path P s t

variable {S} {P Q : σ → α → Prop}

theorem Reach.induct {I : σ → Prop} (h0 : I S.init)
    (hs : ∀ s a, S.Reach P s → I s → S.enabled s a → P s a → I (S.next s a)) {s : σ} (hr : S.Reach P s) : I s := by
  induction hr with
  | init => exact h0
  | step a hr he hp ih => exact hs _ a hr ih he hp

/-- A restricted run is a run. -/
theorem Reach.reachable {s : σ} (hr : S.Reach P s) : S.Reachable s :=
  hr.induct .init fun _ a _ ih he _ => ih.step a he trivial

variable (S) (P) in
/-- Replay a list of actions, if each is enabled and satisfies `P`. -/
def replay [∀ s a, Decidable (S.enabled s a)] [∀ s a, Decidable (P s a)] : σ → List α → Option σ
  | s, [] => some s
  | s, a :: as => if S.enabled s a ∧ P s a then replay (S.next s a) as else none

theorem replay_reach [∀ s a, Decidable (S.enabled s a)] [∀ s a, Decidable (P s a)] (as : List α) {s t : σ}
    (hr : S.Reach P s) (h : S.replay P s as = some t) : S.Reach P t := by
  induction as generalizing s with
  | nil =>
    simp only [replay, Option.some.injEq] at h
    exact h ▸ hr
  | cons a as ih =>
    simp only [replay] at h
    split at h
    · next he => exact ih (hr.step a he.1 he.2) h
    · cases h

/-- The system together with what its steps put out. -/
def recording {β : Type} (S : System σ α) (out : σ → α → List β) : System (σ × List β) α where
  init := (S.init, [])
  enabled x a := S.enabled x.1 a
  next x a := (S.next x.1 a, x.2 ++ out x.1 a)

theorem reachable_of_recording {β : Type} {out : σ → α → List β} {x : σ × List β}
    (hr : (S.recording out).Reachable x) : S.Reachable x.1 := by
  induction hr with
  | init => exact .init
  | step a _ he _ ih => exact ih.step a he trivial

end System

end Lts
