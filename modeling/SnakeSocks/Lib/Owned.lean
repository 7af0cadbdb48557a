import Mathlib.Data.List.Perm.Basic
import Mathlib.Logic.Function.Basic
import SnakeSocks.Lib.Effects
import SnakeSocks.Lib.Ledger

/-!
# Who owns what a trace leaves open

`Moves change a t b`: the trace `t` turns the handles `a` into `b`, whatever else is open, and never closes a handle that
is not open. Traces compose (`Moves.trans`), carry what they do not touch (`Moves.frame`), and can be cut at every event
(`Moves.uncons`); so what several parties do to one table, in any order of their steps, is what they do one by one
(`moves_interleaved`).

`Spends M x w a Q` says the same of a program, for any relation `M` that composes: it is given the handles `a` and ends with
the handles `b` that `Q` allows. There is a rule for each way of putting programs together, as in `Lib/Effects.lean`.
-/

namespace Owned

open Effects Ledger

/-! ## Traces -/

section
variable {ε ρ : Type} [DecidableEq ρ] (change : ε → Change ρ)

def Moves (a : List ρ) (t : List ε) (b : List ρ) : Prop :=
  ∀ fr, ∃ held, openAfter change (a ++ fr) t = some held ∧ held.Perm (b ++ fr)

variable {change} {a a' b b' c : List ρ} {t u : List ε} {e : ε}

theorem moves_nil (h : a.Perm b) : Moves change a [] b := fun _ => ⟨_, rfl, h.append_right _⟩

theorem Moves.perm (h : Moves change a t b) (ha : a.Perm a') (hb : b.Perm b') : Moves change a' t b' := by
  intro fr
  obtain ⟨held, ht, hp⟩ := h fr
  obtain ⟨held', ht', hp'⟩ := openAfter_perm (ha.append_right fr) ht
  exact ⟨held', ht', hp'.symm.trans (hp.trans (hb.append_right fr))⟩

theorem Moves.trans (h₁ : Moves change a t b) (h₂ : Moves change b u c) : Moves change a (t ++ u) c := by
  intro fr
  obtain ⟨held, ht, hp⟩ := h₁ fr
  obtain ⟨held', hu, hp'⟩ := h₂ fr
  obtain ⟨held'', hu', hp''⟩ := openAfter_perm hp.symm hu
  exact ⟨held'', by rw [openAfter_append ht, hu'], hp''.symm.trans hp'⟩

theorem Moves.frame (h : Moves change a t b) (fr : List ρ) : Moves change (a ++ fr) t (b ++ fr) := by
  intro fr'
  rw [List.append_assoc, List.append_assoc]
  exact h (fr ++ fr')

theorem moves_keeps (h : change e = .keeps) : Moves change a [e] a := fun _ => ⟨_, openAfter_keeps h, .refl _⟩

theorem moves_opens {r : ρ} (h : change e = .opens r) : Moves change a [e] (r :: a) :=
  fun _ => ⟨_, openAfter_opens h, .refl _⟩

theorem moves_closes {r : ρ} (h : change e = .closes r) : Moves change (r :: a) [e] a :=
  fun _ => ⟨_, openAfter_closes h, .refl _⟩

/-- What the whole table becomes, when nothing else is open. -/
theorem Moves.openAfter (h : Moves change a t b) : ∃ held, openAfter change a t = some held ∧ held.Perm b := by
  obtain ⟨held, ht, hp⟩ := h []
  rw [List.append_nil] at ht hp
  exact ⟨held, ht, hp⟩

/-- A change that succeeds on the handles of one party does the same in every larger table. -/
theorem apply_append {c : Change ρ} (h : c.apply a = some b) (fr : List ρ) : c.apply (a ++ fr) = some (b ++ fr) := by
  cases c with
  | opens r =>
    cases h
    rfl
  | closes r =>
    by_cases hm : r ∈ a
    · rw [Change.apply, if_pos hm] at h
      cases h
      rw [Change.apply, if_pos (List.mem_append_left _ hm), List.erase_append_left _ hm]
    · rw [Change.apply, if_neg hm] at h
      cases h
  | keeps =>
    cases h
    rfl

/-- So does a whole trace. -/
theorem moves_of_openAfter (h : openAfter change a t = some b) : Moves change a t b := by
  induction t generalizing a with
  | nil =>
    cases h
    exact moves_nil (.refl _)
  | cons e t ih =>
    cases he : (change e).apply a with
    | none =>
      rw [Ledger.openAfter, List.foldlM_cons, he] at h
      cases h
    | some a' =>
      rw [openAfter_cons he] at h
      intro fr
      obtain ⟨held, ht, hp⟩ := ih h fr
      exact ⟨held, by rw [openAfter_cons (apply_append he fr), ht], hp⟩

/-- The first event moves handles of its own. -/
theorem Moves.uncons (h : Moves change a (e :: t) b) : ∃ a', Moves change a [e] a' ∧ Moves change a' t b := by
  cases he : (change e).apply a with
  | none =>
    obtain ⟨held, ht, -⟩ := h []
    rw [List.append_nil, Ledger.openAfter, List.foldlM_cons, he] at ht
    cases ht
  | some a' =>
    refine ⟨a', fun fr => ⟨_, openAfter_cons (apply_append he fr), .refl _⟩, fun fr => ?_⟩
    obtain ⟨held, ht, hp⟩ := h fr
    rw [openAfter_cons (apply_append he fr)] at ht
    exact ⟨held, ht, hp⟩

/-- A trace that is cut off has moved handles of its own. -/
theorem Moves.of_append (h : Moves change a (t ++ u) b) : ∃ c, Moves change a t c := by
  induction t generalizing a with
  | nil => exact ⟨a, moves_nil (.refl _)⟩
  | cons e t ih =>
    obtain ⟨a', h₁, h₂⟩ := h.uncons
    obtain ⟨c, hc⟩ := ih h₂
    exact ⟨c, h₁.trans hc⟩

end

/-- A relation between handles that follows the trace. -/
class Composes {ε ρ : Type} (M : List ρ → List ε → List ρ → Prop) : Prop where
  nil : ∀ a, M a [] a
  trans : ∀ {a b c : List ρ} {t u : List ε}, M a t b → M b u c → M a (t ++ u) c

instance {ε ρ : Type} [DecidableEq ρ] (change : ε → Change ρ) : Composes (Moves change) where
  nil _ := moves_nil (.refl _)
  trans := Moves.trans

/-! ## Several parties -/

section
variable {ε ρ ι : Type} [DecidableEq ρ] [DecidableEq ι] {change : ε → Change ρ}

/-- The events of one party. -/
def ofParty (t : List (ι × ε)) (i : ι) : List ε := (t.filter (·.1 = i)).map Prod.snd

/-- One party's step, seen in the common table. -/
theorem moves_party {parties : List ι} (hn : parties.Nodup) {i : ι} (hi : i ∈ parties) {a : ι → List ρ} {b : List ρ}
    {t : List ε} (h : Moves change (a i) t b) :
    Moves change (parties.flatMap a) t (parties.flatMap (Function.update a i b)) := by
  have hp : parties.Perm (i :: parties.erase i) := List.perm_cons_erase hi
  have hrest : (parties.erase i).flatMap (Function.update a i b) = (parties.erase i).flatMap a := by
    refine List.flatMap_congr fun j hj => ?_
    have hne : j ≠ i := fun he => (hn.mem_erase_iff.1 hj).1 he
    rw [Function.update_of_ne hne]
  have hto : (parties.flatMap (Function.update a i b)).Perm (b ++ (parties.erase i).flatMap a) := by
    refine (hp.flatMap_right _).trans ?_
    rw [List.flatMap_cons, Function.update_self, hrest]
  have hof : (parties.flatMap a).Perm (a i ++ (parties.erase i).flatMap a) := by
    refine (hp.flatMap_right _).trans ?_
    rw [List.flatMap_cons]
  exact (h.frame _).perm hof.symm hto.symm

/-- Interleaved or one by one: every party ends with the handles it ends with alone. -/
theorem moves_interleaved {parties : List ι} (hn : parties.Nodup) {a b : ι → List ρ} {t : List (ι × ε)}
    (hids : ∀ e ∈ t, e.1 ∈ parties) (h : ∀ i ∈ parties, Moves change (a i) (ofParty t i) (b i)) :
    Moves change (parties.flatMap a) (t.map Prod.snd) (parties.flatMap b) := by
  induction t generalizing a with
  | nil =>
    refine moves_nil (List.Perm.flatMap_left _ fun i hi => ?_)
    obtain ⟨held, hh, hp⟩ := (h i hi).openAfter
    cases hh
    exact hp
  | cons e t ih =>
    obtain ⟨i, e⟩ := e
    have hi : i ∈ parties := hids (i, e) List.mem_cons_self
    have hhere : ofParty ((i, e) :: t) i = e :: ofParty t i := by simp [ofParty]
    obtain ⟨a', h₁, h₂⟩ := (hhere ▸ h i hi).uncons
    have hrest : ∀ j ∈ parties, Moves change (Function.update a i a' j) (ofParty t j) (b j) := by
      intro j hj
      by_cases hji : j = i
      · subst hji
        rwa [Function.update_self]
      · have hthere : ofParty ((i, e) :: t) j = ofParty t j := by simp [ofParty, Ne.symm hji]
        rw [Function.update_of_ne hji, ← hthere]
        exact h j hj
    exact (moves_party hn hi h₁).trans (ih (fun e he => hids e (List.mem_cons_of_mem _ he)) hrest)

end

/-! ## Programs -/

section
variable {C : Type} {R : C → Type} {σ ε φ α β ρ : Type} (M : List ρ → List (Sigma R) → List ρ → Prop)

/-- From `w` with the handles `a`, `x` ends as `Q` allows: with which value or halt, which store, which calls and which
handles. -/
def Spends (x : Eff R σ ε φ α) (w : World R σ) (a : List ρ)
    (Q : Except (Halt ε φ) α → σ → List (Sigma R) → List ρ → Prop) : Prop :=
  Ends x w fun r s u => ∃ b, Q r s u b ∧ M a u b

/-- The world a run ends in. -/
def after : EStateM.Result (Halt ε φ) (World R σ) α → World R σ
  | .ok _ w | .error _ w => w

def outcome : EStateM.Result (Halt ε φ) (World R σ) α → Except (Halt ε φ) α
  | .ok v _ => .ok v
  | .error e _ => .error e

variable {M} {x : Eff R σ ε φ α} {f : α → Eff R σ ε φ β} {w : World R σ} {a a' : List ρ}
  {Q Q' : Except (Halt ε φ) α → σ → List (Sigma R) → List ρ → Prop}
  {P : Except (Halt ε φ) β → σ → List (Sigma R) → List ρ → Prop}

/-- A run from an empty trace. -/
theorem Spends.run {s : σ} (hx : Spends M x ⟨s, []⟩ a Q) :
    ∃ b, Q (outcome (x ⟨s, []⟩)) (after (x ⟨s, []⟩)).store (after (x ⟨s, []⟩)).trace b ∧
      M a (after (x ⟨s, []⟩)).trace b := by
  unfold Spends at hx
  cases hr : x ⟨s, []⟩ with
  | ok v w' =>
    obtain ⟨u, ht, hq⟩ := hx.ok hr
    rw [List.nil_append] at ht
    rw [after, outcome, ht]
    exact hq
  | error e w' =>
    obtain ⟨u, ht, hq⟩ := hx.error hr
    rw [List.nil_append] at ht
    rw [after, outcome, ht]
    exact hq

theorem Spends.imp (hx : Spends M x w a Q) (h : ∀ r s u b, Q r s u b → Q' r s u b) : Spends M x w a Q' :=
  Ends.imp hx fun r s u ⟨b, hq, hm⟩ => ⟨b, h r s u b hq, hm⟩

theorem spends_perform {env : Env R} {c : C} {Q : Except (Halt ε φ) (R c) → σ → List (Sigma R) → List ρ → Prop}
    (h : ∃ b, Q (.ok (env w.trace c)) w.store [⟨c, env w.trace c⟩] b ∧ M a [⟨c, env w.trace c⟩] b) :
    Spends M (perform env c) w a Q :=
  ends_perform h

variable [Composes M]

theorem spends_pure {v : α} (h : Q (.ok v) w.store [] a) : Spends M (pure v) w a Q :=
  ends_pure ⟨a, h, Composes.nil a⟩

theorem spends_raise {e : ε} (h : Q (.error (.raised e)) w.store [] a) : Spends M (raise e) w a Q :=
  ends_raise ⟨a, h, Composes.nil a⟩

theorem spends_lose {e : φ} (h : Q (.error (.lost e)) w.store [] a) : Spends M (lose e) w a Q :=
  ends_lose ⟨a, h, Composes.nil a⟩

theorem spends_getStore {Q : Except (Halt ε φ) σ → σ → List (Sigma R) → List ρ → Prop}
    (h : Q (.ok w.store) w.store [] a) : Spends M getStore w a Q :=
  ends_getStore ⟨a, h, Composes.nil a⟩

theorem spends_setStore {s : σ} {Q : Except (Halt ε φ) Unit → σ → List (Sigma R) → List ρ → Prop}
    (h : Q (.ok ()) s [] a) : Spends M (setStore s) w a Q :=
  ends_setStore ⟨a, h, Composes.nil a⟩

/-- Handles that were closed and opened before are behind the handles of the rest. -/
theorem Spends.after {x : Eff R σ ε φ α} {w' : World R σ} {u : List (Sigma R)} {b : List ρ} (hm : M a u b)
    (h : Spends M x w' b fun r s v c => Q r s (u ++ v) c) :
    Ends x w' fun r s v => ∃ c, Q r s (u ++ v) c ∧ M a (u ++ v) c :=
  Ends.imp h fun _ _ _ ⟨c, hq, hm'⟩ => ⟨c, hq, Composes.trans hm hm'⟩

theorem Spends.bind (hx : Spends M x w a Q)
    (hok : ∀ v w' u b, Q (.ok v) w'.store u b → Spends M (f v) w' b fun r s u' c => P r s (u ++ u') c)
    (herr : ∀ e s u b, Q (.error e) s u b → P (.error e) s u b) : Spends M (x >>= f) w a P := by
  refine Ends.bind hx (fun v w' u _ ⟨b, hq, hm⟩ => (hok v w' u b hq).after hm) fun e s u ⟨b, hq, hm⟩ => ?_
  exact ⟨b, herr e s u b hq, hm⟩

theorem spends_perform_bind {env : Env R} {c : C} {f : R c → Eff R σ ε φ β}
    (h : ∀ r, ∃ b, M a [⟨c, r⟩] b ∧ ∀ w', Spends M (f r) w' b fun v s u d => P v s (⟨c, r⟩ :: u) d) :
    Spends M (perform env c >>= f) w a P := by
  obtain ⟨b, hm, hf⟩ := h (env w.trace c)
  exact ends_perform_bind fun w' _ _ => Spends.after hm (hf w')

theorem Spends.deferring {cleanup : Eff R σ ε φ Unit} (hx : Spends M x w a Q)
    (hok : ∀ v w' u b, Q (.ok v) w'.store u b →
      Spends M (cleanup >>= fun _ => pure v) w' b fun r s u' c => Q' r s (u ++ u') c)
    (hraised : ∀ e w' u b, Q (.error (.raised e)) w'.store u b →
      Spends M (cleanup >>= fun _ => raise e) w' b fun r s u' c => Q' r s (u ++ u') c)
    (hlost : ∀ f s u b, Q (.error (.lost f)) s u b → Q' (.error (.lost f)) s u b) :
    Spends M (deferring cleanup x) w a Q' := by
  refine Ends.deferring hx (fun v w' u _ ⟨b, hq, hm⟩ => (hok v w' u b hq).after hm)
    (fun e w' u _ ⟨b, hq, hm⟩ => (hraised e w' u b hq).after hm) fun f s u ⟨b, hq, hm⟩ => ?_
  exact ⟨b, hlost f s u b hq, hm⟩

/-- A cleanup that does not fail: the outcome is that of the body. -/
theorem Spends.guarded {cleanup : Eff R σ ε φ Unit} (hx : Spends M x w a Q)
    (hc : ∀ r w' u b, (∀ f, r ≠ .error (.lost f)) → Q r w'.store u b →
      Spends M cleanup w' b fun rc s u' c => rc = .ok () ∧ Q' r s (u ++ u') c)
    (hlost : ∀ f s u b, Q (.error (.lost f)) s u b → Q' (.error (.lost f)) s u b) :
    Spends M (Effects.deferring cleanup x) w a Q' := by
  refine Spends.deferring hx (fun v w' u b h => ?_) (fun e w' u b h => ?_) hlost
  · refine Spends.bind (hc (.ok v) w' u b nofun h) (fun _ w₁ u' c hq => spends_pure ?_) fun e s u' c hq => ?_
    · rw [List.append_nil]
      exact hq.2
    · cases hq.1
  · refine Spends.bind (hc (.error (.raised e)) w' u b nofun h) (fun _ w₁ u' c hq => spends_raise ?_) fun e s u' c hq => ?_
    · rw [List.append_nil]
      exact hq.2
    · cases hq.1

theorem Spends.catching {handler : ε → Eff R σ ε φ α} (hx : Spends M x w a Q)
    (hok : ∀ v s u b, Q (.ok v) s u b → Q' (.ok v) s u b)
    (hraised : ∀ e w' u b, Q (.error (.raised e)) w'.store u b →
      Spends M (handler e) w' b fun r s u' c => Q' r s (u ++ u') c)
    (hlost : ∀ f s u b, Q (.error (.lost f)) s u b → Q' (.error (.lost f)) s u b) :
    Spends M (catching handler x) w a Q' := by
  refine Ends.catching hx (fun v s u ⟨b, hq, hm⟩ => ⟨b, hok v s u b hq, hm⟩)
    (fun e w' u _ ⟨b, hq, hm⟩ => (hraised e w' u b hq).after hm) fun f s u ⟨b, hq, hm⟩ => ?_
  exact ⟨b, hlost f s u b hq, hm⟩

end

section
variable {C : Type} {R : C → Type} {σ ε φ α ρ : Type} [DecidableEq ρ] {change : Sigma R → Change ρ}
  {x : Eff R σ ε φ α} {w : World R σ} {a a' : List ρ} {Q : Except (Halt ε φ) α → σ → List (Sigma R) → List ρ → Prop}

theorem Spends.perm (hx : Spends (Moves change) x w a Q) (ha : a.Perm a') : Spends (Moves change) x w a' Q :=
  Ends.imp hx fun _ _ _ ⟨b, hq, hm⟩ => ⟨b, hq, hm.perm ha (.refl _)⟩

/-- What a program is not given it leaves alone. -/
theorem Spends.frame (hx : Spends (Moves change) x w a Q) (fr : List ρ) :
    Spends (Moves change) x w (a ++ fr) fun r s u b => ∃ b', b = b' ++ fr ∧ Q r s u b' :=
  Ends.imp hx fun _ _ _ ⟨b, hq, hm⟩ => ⟨b ++ fr, ⟨b, rfl, hq⟩, hm.frame fr⟩

end

end Owned
