import Mathlib.Data.List.Basic

/-!
# Programs over calls with recorded outcomes

A program makes calls `c : C`; the outcome of each, a value of `R c`, is chosen by an environment that has seen every
earlier call with its outcome. So a statement over all environments is a statement over all outcomes of all calls.
Every call is recorded in a trace. A program ends with a value, with an exception, or it is lost: no later code of it
runs, not even cleanup.

`Ends x w Q` says how `x` ends from `w` and what it added to the trace; `Only p x` says that every call it adds
satisfies `p`, `Steady p x` that it leaves the store alone besides. There is a rule for each way of putting programs
together: sequence, scope guards (`deferring`) and `catching`.
-/

namespace Effects

section
variable {C : Type} (R : C → Type) (σ ε φ : Type)

/-- Decides the outcome of a call from the calls before it. -/
abbrev Env := List (Sigma R) → (c : C) → R c

structure World where
  store : σ
  trace : List (Sigma R)

inductive Halt where
  | raised (e : ε)
  | lost (f : φ)

abbrev Eff := EStateM (Halt ε φ) (World R σ)

end

/-! ## Sequences -/

section
variable {ε σ α β : Type} {x : EStateM ε σ α} {f : α → EStateM ε σ β} {s s' : σ}

theorem bind_of_ok {a : α} (h : x s = .ok a s') : (x >>= f) s = f a s' := by
  show EStateM.bind x f s = _
  rw [EStateM.bind, h]

theorem bind_of_error {e : ε} (h : x s = .error e s') : (x >>= f) s = .error e s' := by
  show EStateM.bind x f s = _
  rw [EStateM.bind, h]

/-- A successful sequence is two successes. -/
theorem of_bind_eq_ok {b : β} (h : (x >>= f) s = .ok b s') : ∃ a s₁, x s = .ok a s₁ ∧ f a s₁ = .ok b s' := by
  cases hx : x s with
  | ok a s₁ => exact ⟨a, s₁, rfl, (bind_of_ok hx).symm.trans h⟩
  | error e s₁ =>
    rw [bind_of_error hx] at h
    cases h

end

variable {C : Type} {R : C → Type} {σ ε φ α β : Type}

/-! ## Programs -/

def perform (env : Env R) (c : C) : Eff R σ ε φ (R c) := fun w =>
  .ok (env w.trace c) { w with trace := w.trace ++ [⟨c, env w.trace c⟩] }

def raise (e : ε) : Eff R σ ε φ α := fun w => .error (.raised e) w

def lose (f : φ) : Eff R σ ε φ α := fun w => .error (.lost f) w

def getStore : Eff R σ ε φ σ := fun w => .ok w.store w

def setStore (s : σ) : Eff R σ ε φ Unit := fun w => .ok () { w with store := s }

/-- `body`, with `cleanup` at the end of its scope; an exception unwinds through it. -/
def deferring (cleanup : Eff R σ ε φ Unit) (body : Eff R σ ε φ α) : Eff R σ ε φ α := fun w =>
  match body w with
  | .ok a w' => (cleanup >>= fun _ => pure a) w'
  | .error (.raised e) w' => (cleanup >>= fun _ => raise e) w'
  | .error (.lost f) w' => .error (.lost f) w'

def catching (handler : ε → Eff R σ ε φ α) (body : Eff R σ ε φ α) : Eff R σ ε φ α := fun w =>
  match body w with
  | .ok a w' => .ok a w'
  | .error (.raised e) w' => handler e w'
  | .error (.lost f) w' => .error (.lost f) w'

/-! ## How a program ends -/

/-- From `w`, `x` ends as `Q` allows: with which value or halt, with which store, after adding which calls. -/
def Ends (x : Eff R σ ε φ α) (w : World R σ) (Q : Except (Halt ε φ) α → σ → List (Sigma R) → Prop) : Prop :=
  match x w with
  | .ok a w' => ∃ u, w'.trace = w.trace ++ u ∧ Q (.ok a) w'.store u
  | .error e w' => ∃ u, w'.trace = w.trace ++ u ∧ Q (.error e) w'.store u

section
variable {x : Eff R σ ε φ α} {f : α → Eff R σ ε φ β} {w : World R σ}
  {Q Q' : Except (Halt ε φ) α → σ → List (Sigma R) → Prop} {P : Except (Halt ε φ) β → σ → List (Sigma R) → Prop}

theorem ends_of_ok {a : α} {w' : World R σ} (h : x w = .ok a w') :
    Ends x w Q ↔ ∃ u, w'.trace = w.trace ++ u ∧ Q (.ok a) w'.store u := by
  rw [Ends, h]

theorem ends_of_error {e : Halt ε φ} {w' : World R σ} (h : x w = .error e w') :
    Ends x w Q ↔ ∃ u, w'.trace = w.trace ++ u ∧ Q (.error e) w'.store u := by
  rw [Ends, h]

theorem Ends.ok {a : α} {w' : World R σ} (hx : Ends x w Q) (h : x w = .ok a w') :
    ∃ u, w'.trace = w.trace ++ u ∧ Q (.ok a) w'.store u := (ends_of_ok h).1 hx

theorem Ends.error {e : Halt ε φ} {w' : World R σ} (hx : Ends x w Q) (h : x w = .error e w') :
    ∃ u, w'.trace = w.trace ++ u ∧ Q (.error e) w'.store u := (ends_of_error h).1 hx

theorem Ends.imp (hx : Ends x w Q) (h : ∀ r s u, Q r s u → Q' r s u) : Ends x w Q' := by
  cases hr : x w with
  | ok a w' =>
    obtain ⟨u, ht, hq⟩ := hx.ok hr
    exact (ends_of_ok hr).2 ⟨u, ht, h _ _ _ hq⟩
  | error e w' =>
    obtain ⟨u, ht, hq⟩ := hx.error hr
    exact (ends_of_error hr).2 ⟨u, ht, h _ _ _ hq⟩

theorem ends_pure {a : α} (h : Q (.ok a) w.store []) : Ends (pure a) w Q :=
  (ends_of_ok rfl).2 ⟨[], by simp, h⟩

theorem ends_raise {e : ε} (h : Q (.error (.raised e)) w.store []) : Ends (raise e) w Q :=
  (ends_of_error rfl).2 ⟨[], by simp, h⟩

theorem ends_lose {e : φ} (h : Q (.error (.lost e)) w.store []) : Ends (lose e) w Q :=
  (ends_of_error rfl).2 ⟨[], by simp, h⟩

theorem ends_perform {env : Env R} {c : C} {Q : Except (Halt ε φ) (R c) → σ → List (Sigma R) → Prop}
    (h : Q (.ok (env w.trace c)) w.store [⟨c, env w.trace c⟩]) : Ends (perform env c) w Q := by
  have hr : (perform env c : Eff R σ ε φ (R c)) w = .ok (env w.trace c) ⟨w.store, w.trace ++ [⟨c, env w.trace c⟩]⟩ := rfl
  exact (ends_of_ok hr).2 ⟨_, rfl, h⟩

theorem ends_getStore {Q : Except (Halt ε φ) σ → σ → List (Sigma R) → Prop} (h : Q (.ok w.store) w.store []) :
    Ends getStore w Q :=
  (ends_of_ok rfl).2 ⟨[], by simp, h⟩

theorem ends_setStore {s : σ} {Q : Except (Halt ε φ) Unit → σ → List (Sigma R) → Prop} (h : Q (.ok ()) s []) :
    Ends (setStore s) w Q :=
  (ends_of_ok rfl).2 ⟨[], by simp, h⟩

theorem Ends.congr {y : Eff R σ ε φ α} (hx : Ends x w Q) (hw : y w = x w) : Ends y w Q := by
  unfold Ends at hx ⊢
  rw [hw]
  exact hx

/-- What is true of the whole trace behind `x` is true of the trace behind `u` that `x` left. -/
theorem Ends.shift {y : Eff R σ ε φ α} {w' : World R σ} {u : List (Sigma R)} (ht : w'.trace = w.trace ++ u)
    (h : Ends x w' fun r s v => Q r s (u ++ v)) (hw : y w = x w') : Ends y w Q := by
  unfold Ends at h ⊢
  rw [hw]
  split
  · next a w'' hr =>
    rw [hr] at h
    obtain ⟨v, hv, hq⟩ := h
    exact ⟨u ++ v, by rw [hv, ht, List.append_assoc], hq⟩
  · next e w'' hr =>
    rw [hr] at h
    obtain ⟨v, hv, hq⟩ := h
    exact ⟨u ++ v, by rw [hv, ht, List.append_assoc], hq⟩

/-- Sequence: the second program starts behind what the first one added. -/
theorem Ends.bind (hx : Ends x w Q)
    (hok : ∀ a w' u, w'.trace = w.trace ++ u → Q (.ok a) w'.store u → Ends (f a) w' fun r s v => P r s (u ++ v))
    (herr : ∀ e s u, Q (.error e) s u → P (.error e) s u) : Ends (x >>= f) w P := by
  cases hr : x w with
  | ok a w' =>
    obtain ⟨u, ht, hq⟩ := hx.ok hr
    exact (hok a w' u ht hq).shift ht (bind_of_ok hr)
  | error e w' =>
    obtain ⟨u, ht, hq⟩ := hx.error hr
    exact (ends_of_error (bind_of_error hr)).2 ⟨u, ht, herr e _ u hq⟩

/-- A call in front. -/
theorem ends_perform_bind {env : Env R} {c : C} {f : R c → Eff R σ ε φ β}
    (h : ∀ w', w'.store = w.store → w'.trace = w.trace ++ [⟨c, env w.trace c⟩] →
      Ends (f (env w.trace c)) w' fun r s v => P r s (⟨c, env w.trace c⟩ :: v)) : Ends (perform env c >>= f) w P := by
  obtain ⟨w', hw, hs, ht⟩ : ∃ w', (perform env c : Eff R σ ε φ (R c)) w = .ok (env w.trace c) w' ∧
      w'.store = w.store ∧ w'.trace = w.trace ++ [⟨c, env w.trace c⟩] := ⟨_, rfl, rfl, rfl⟩
  exact (h w' hs ht).shift ht (bind_of_ok hw)

/-- A scope guard: the cleanup starts behind what the body added. -/
theorem Ends.deferring {cleanup : Eff R σ ε φ Unit} (hx : Ends x w Q)
    (hok : ∀ a w' u, w'.trace = w.trace ++ u → Q (.ok a) w'.store u →
      Ends (cleanup >>= fun _ => pure a) w' fun r s v => Q' r s (u ++ v))
    (hraised : ∀ e w' u, w'.trace = w.trace ++ u → Q (.error (.raised e)) w'.store u →
      Ends (cleanup >>= fun _ => raise e) w' fun r s v => Q' r s (u ++ v))
    (hlost : ∀ f s u, Q (.error (.lost f)) s u → Q' (.error (.lost f)) s u) : Ends (deferring cleanup x) w Q' := by
  cases hr : x w with
  | ok a w' =>
    obtain ⟨u, ht, hq⟩ := hx.ok hr
    exact (hok a w' u ht hq).shift ht (by rw [Effects.deferring, hr])
  | error e w' =>
    obtain ⟨u, ht, hq⟩ := hx.error hr
    cases e with
    | raised e => exact (hraised e w' u ht hq).shift ht (by rw [Effects.deferring, hr])
    | lost f =>
      have hd : Effects.deferring cleanup x w = .error (.lost f) w' := by rw [Effects.deferring, hr]
      exact (ends_of_error hd).2 ⟨u, ht, hlost f _ u hq⟩

theorem Ends.catching {handler : ε → Eff R σ ε φ α} (hx : Ends x w Q)
    (hok : ∀ a s u, Q (.ok a) s u → Q' (.ok a) s u)
    (hraised : ∀ e w' u, w'.trace = w.trace ++ u → Q (.error (.raised e)) w'.store u →
      Ends (handler e) w' fun r s v => Q' r s (u ++ v))
    (hlost : ∀ f s u, Q (.error (.lost f)) s u → Q' (.error (.lost f)) s u) : Ends (catching handler x) w Q' := by
  cases hr : x w with
  | ok a w' =>
    obtain ⟨u, ht, hq⟩ := hx.ok hr
    have hc : Effects.catching handler x w = .ok a w' := by rw [Effects.catching, hr]
    exact (ends_of_ok hc).2 ⟨u, ht, hok a _ u hq⟩
  | error e w' =>
    obtain ⟨u, ht, hq⟩ := hx.error hr
    cases e with
    | raised e => exact (hraised e w' u ht hq).shift ht (by rw [Effects.catching, hr])
    | lost f =>
      have hc : Effects.catching handler x w = .error (.lost f) w' := by rw [Effects.catching, hr]
      exact (ends_of_error hc).2 ⟨u, ht, hlost f _ u hq⟩

end

/-! ## Which calls a program makes -/

/-- Every call `x` makes satisfies `p`. -/
def Only (p : Sigma R → Prop) (x : Eff R σ ε φ α) : Prop := ∀ w, Ends x w fun _ _ u => ∀ e ∈ u, p e

section
variable {p q : Sigma R → Prop} {x : Eff R σ ε φ α} {f : α → Eff R σ ε φ β}

theorem Only.imp (hx : Only p x) (h : ∀ e, p e → q e) : Only q x :=
  fun w => (hx w).imp fun _ _ _ hu e he => h e (hu e he)

theorem only_pure (a : α) : Only p (pure a : Eff R σ ε φ α) := fun _ => ends_pure (by simp)

theorem only_raise (e : ε) : Only p (raise e : Eff R σ ε φ α) := fun _ => ends_raise (by simp)

theorem only_getStore : Only p (getStore : Eff R σ ε φ σ) := fun _ => ends_getStore (by simp)

theorem only_perform {env : Env R} {c : C} (h : ∀ r, p ⟨c, r⟩) : Only p (perform env c : Eff R σ ε φ (R c)) :=
  fun _ => ends_perform (by simp [h])

theorem Only.bind (hx : Only p x) (hf : ∀ a, Only p (f a)) : Only p (x >>= f) := by
  intro w
  refine (hx w).bind (fun a w' u _ hu => ?_) (fun _ _ _ hu => hu)
  refine (hf a w').imp fun _ _ v hv e he => ?_
  rcases List.mem_append.1 he with h | h
  · exact hu e h
  · exact hv e h

theorem Only.deferring {cleanup : Eff R σ ε φ Unit} (hc : Only p cleanup) (hx : Only p x) :
    Only p (deferring cleanup x) := by
  have happ : ∀ {u v : List (Sigma R)}, (∀ e ∈ u, p e) → (∀ e ∈ v, p e) → ∀ e ∈ u ++ v, p e := by
    intro u v hu hv e he
    exact (List.mem_append.1 he).elim (hu e) (hv e)
  intro w
  refine (hx w).deferring (fun a w' u _ hu => ?_) (fun e w' u _ hu => ?_) (fun _ _ _ hu => hu)
  · exact ((hc.bind fun _ => only_pure a) w').imp fun _ _ _ hv => happ hu hv
  · exact ((hc.bind fun _ => only_raise e) w').imp fun _ _ _ hv => happ hu hv

theorem Only.catching {handler : ε → Eff R σ ε φ α} (hx : Only p x) (hh : ∀ e, Only p (handler e)) :
    Only p (catching handler x) := by
  intro w
  refine (hx w).catching (fun _ _ _ hu => hu) (fun e w' u _ hu => ?_) (fun _ _ _ hu => hu)
  refine (hh e w').imp fun _ _ v hv e he => ?_
  exact (List.mem_append.1 he).elim (hu e) (hv e)

/-- Calls that satisfy `p`, and then what `T` says. -/
def After (p : Sigma R → Prop) (T : Except (Halt ε φ) α → List (Sigma R) → Prop) (r : Except (Halt ε φ) α) (_ : σ)
    (u : List (Sigma R)) : Prop :=
  ∃ q v, u = q ++ v ∧ (∀ e ∈ q, p e) ∧ T r v

theorem after_nil {T : Except (Halt ε φ) α → List (Sigma R) → Prop} {r : Except (Halt ε φ) α} {s : σ}
    {u : List (Sigma R)} (h : T r u) : After p T r s u :=
  ⟨[], u, rfl, by simp, h⟩

/-- A program that only makes calls with `p` can stand in front. -/
theorem Only.bind_after (hx : Only p x) {T : Except (Halt ε φ) β → List (Sigma R) → Prop} {w : World R σ}
    (hf : ∀ a w', Ends (f a) w' (After p T)) (herr : ∀ e, T (.error e) []) : Ends (x >>= f) w (After p T) := by
  refine (hx w).bind (fun a w' u _ hu => ?_) (fun e s u hu => ⟨u, [], by simp, hu, herr e⟩)
  refine (hf a w').imp fun r s v h => ?_
  obtain ⟨q, v', rfl, hq, ht⟩ := h
  refine ⟨u ++ q, v', by simp, fun e he => ?_, ht⟩
  exact (List.mem_append.1 he).elim (hu e) (hq e)

end

/-! ## Programs that leave the store alone -/

/-- Every call `x` makes satisfies `p`, and the store is as before. -/
def Steady (p : Sigma R → Prop) (x : Eff R σ ε φ α) : Prop := ∀ w, Ends x w fun _ s u => s = w.store ∧ ∀ e ∈ u, p e

section
variable {p : Sigma R → Prop} {x : Eff R σ ε φ α} {f : α → Eff R σ ε φ β}

theorem Steady.only (hx : Steady p x) : Only p x := fun w => (hx w).imp fun _ _ _ h => h.2

theorem steady_pure (a : α) : Steady p (pure a : Eff R σ ε φ α) := fun _ => ends_pure ⟨rfl, by simp⟩

theorem steady_raise (e : ε) : Steady p (raise e : Eff R σ ε φ α) := fun _ => ends_raise ⟨rfl, by simp⟩

theorem steady_lose (f : φ) : Steady p (lose f : Eff R σ ε φ α) := fun _ => ends_lose ⟨rfl, by simp⟩

theorem steady_perform {env : Env R} {c : C} (h : ∀ r, p ⟨c, r⟩) : Steady p (perform env c : Eff R σ ε φ (R c)) :=
  fun _ => ends_perform ⟨rfl, by simp [h]⟩

theorem Steady.bind (hx : Steady p x) (hf : ∀ a, Steady p (f a)) : Steady p (x >>= f) := by
  intro w
  refine (hx w).bind (fun a w' u _ hu => ?_) (fun _ _ _ hu => hu)
  refine (hf a w').imp fun _ _ v hv => ⟨hv.1.trans hu.1, fun e he => ?_⟩
  exact (List.mem_append.1 he).elim (hu.2 e) (hv.2 e)

end

end Effects
