import Mathlib.Data.List.Induction
import Mathlib.Data.List.Perm.Subperm
import SnakeSocks.Lib.Owned

/-!
# Whose handles a trace touches

Beside what an event opens or closes it may use handles. `Careful change uses start t`: every event of `t` uses only handles
that are held by then. `Minds change uses a t b` is the rule for composing: whoever holds `a`, and perhaps more, is careful
during `t` and holds `b` behind it, and perhaps more.

Several parties share one table of handles, and may hand them over. If nothing is opened that is open (`Fresh`), what was
given is taken once (`Passed`), and every party is careful by itself, then in every order of their steps each open handle is
in one place (`placed`) and nobody touches a handle of another party (`isolated`).
-/

namespace Tenure

open Effects Ledger Owned

/-! ## Traces -/

section
variable {ε ρ : Type} [DecidableEq ρ] (change : ε → Change ρ) (uses : ε → List ρ)

def behind (held : List ρ) : Change ρ → List ρ
  | .opens r => r :: held
  | .closes r => held.erase r
  | .keeps => held

/-- The handles that are held behind a trace. -/
def heldAfter (start : List ρ) (t : List ε) : List ρ := t.foldl (fun held e => behind held (change e)) start

def Careful (start : List ρ) (t : List ε) : Prop :=
  ∀ p e s, t = p ++ e :: s → ∀ r ∈ uses e, r ∈ heldAfter change start p

def Minds (a : List ρ) (t : List ε) (b : List ρ) : Prop :=
  ∀ start, a.Subperm start → Careful change uses start t ∧ b.Subperm (heldAfter change start t)

variable {change uses} {a b start : List ρ} {t u : List ε} {e : ε} {r : ρ}

@[simp]
theorem heldAfter_nil : heldAfter change start [] = start := rfl

theorem heldAfter_append : heldAfter change start (t ++ u) = heldAfter change (heldAfter change start t) u := by
  simp [heldAfter]

theorem heldAfter_singleton : heldAfter change start [e] = behind start (change e) := rfl

theorem careful_nil : Careful change uses start [] := by
  intro p e s h
  simp at h

theorem careful_singleton (h : ∀ r ∈ uses e, r ∈ start) : Careful change uses start [e] := by
  intro p e' s ht r hr
  cases p with
  | nil =>
    cases ht
    exact h r hr
  | cons x p => simp at ht

/-- The second part starts with what the first one left. -/
theorem Careful.append (ht : Careful change uses start t) (hu : Careful change uses (heldAfter change start t) u) :
    Careful change uses start (t ++ u) := by
  intro p e s h r hr
  rcases List.append_eq_append_iff.1 h with ⟨p', rfl, hp'⟩ | ⟨t', rfl, ht'⟩
  · rw [heldAfter_append]
    exact hu p' e s hp' r hr
  · cases t' with
    | nil =>
      rw [List.append_nil] at hu ht
      exact hu [] e s (by simpa using ht'.symm) r hr
    | cons x t' =>
      cases ht'
      exact ht p e t' rfl r hr

theorem Careful.of_prefix (h : Careful change uses start u) (ht : t <+: u) : Careful change uses start t := by
  obtain ⟨v, rfl⟩ := ht
  intro p e s hs r hr
  refine h p e (s ++ v) ?_ r hr
  rw [hs, List.append_assoc, List.cons_append]

/-- The same trace, seen by other events. -/
theorem heldAfter_map {ε' : Type} {change' : ε' → Change ρ} {f : ε' → ε} (hc : ∀ e, change (f e) = change' e)
    (t : List ε') : heldAfter change start (t.map f) = heldAfter change' start t := by
  simp only [heldAfter, List.foldl_map, hc]

theorem Careful.map {ε' : Type} {change' : ε' → Change ρ} {uses' : ε' → List ρ} {f : ε' → ε} {t : List ε'}
    (h : Careful change' uses' start t) (hc : ∀ e, change (f e) = change' e) (hu : ∀ e, uses (f e) = uses' e) :
    Careful change uses start (t.map f) := by
  intro p e s hs r hr
  obtain ⟨p', t', rfl, rfl, ht'⟩ := List.map_eq_append_iff.1 hs
  obtain ⟨e', s', rfl, rfl, rfl⟩ := List.map_eq_cons_iff.1 ht'
  rw [heldAfter_map hc]
  exact h p' e' s' rfl r (hu e' ▸ hr)

instance : Composes (Minds change uses) where
  nil _ := fun _ h => ⟨careful_nil, h⟩
  trans h₁ h₂ := by
    intro start h
    obtain ⟨ht, hb⟩ := h₁ start h
    obtain ⟨hu, hc⟩ := h₂ _ hb
    refine ⟨ht.append hu, ?_⟩
    rwa [heldAfter_append]

/-- A handle that is held may be forgotten. -/
theorem Minds.forget (h : Minds change uses a t (r :: b)) : Minds change uses a t b := by
  intro start hs
  obtain ⟨hc, hleft⟩ := h start hs
  exact ⟨hc, List.subperm_cons_self.trans hleft⟩

theorem minds_keeps (h : change e = .keeps) (hu : ∀ r ∈ uses e, r ∈ a) : Minds change uses a [e] a := by
  intro start hs
  refine ⟨careful_singleton fun r hr => hs.subset (hu r hr), ?_⟩
  rw [heldAfter_singleton, h]
  exact hs

theorem minds_opens (h : change e = .opens r) (hu : ∀ r ∈ uses e, r ∈ a) : Minds change uses a [e] (r :: a) := by
  intro start hs
  refine ⟨careful_singleton fun r hr => hs.subset (hu r hr), ?_⟩
  rw [heldAfter_singleton, h]
  exact (List.subperm_cons r).2 hs

theorem minds_closes (h : change e = .closes r) (hu : ∀ x ∈ uses e, x ∈ r :: a) : Minds change uses (r :: a) [e] a := by
  intro start hs
  refine ⟨careful_singleton fun x hx => hs.subset (hu x hx), ?_⟩
  rw [heldAfter_singleton, h]
  have herase := hs.erase r
  rwa [List.erase_cons_head] at herase

/-- Events that only use what is held. -/
theorem minds_inert (h : ∀ e ∈ t, change e = .keeps ∧ ∀ r ∈ uses e, r ∈ a) : Minds change uses a t a := by
  induction t with
  | nil => exact Composes.nil a
  | cons e t ih =>
    obtain ⟨hk, hu⟩ := h e List.mem_cons_self
    exact Composes.trans (minds_keeps hk hu) (ih fun e he => h e (List.mem_cons_of_mem _ he))

end

/-! ## Places

A table of handles, and the places where they are.
-/

section
variable {ρ κ : Type}

/-- Every handle of a place is in the table, and in no second place. -/
structure Placed (held : κ → List ρ) (table : List ρ) : Prop where
  once : table.Nodup
  nodup : ∀ k, (held k).Nodup
  listed : ∀ k, ∀ r ∈ held k, r ∈ table
  apart : ∀ k l, ∀ r ∈ held k, r ∈ held l → k = l

variable {held : κ → List ρ} {table table' : List ρ} {k l : κ} {r : ρ}

theorem Placed.of_perm (h : Placed held table) (hp : table.Perm table') : Placed held table' where
  once := hp.nodup_iff.1 h.once
  nodup := h.nodup
  listed k r hr := hp.mem_iff.1 (h.listed k r hr)
  apart := h.apart

variable [DecidableEq κ]

theorem Placed.opens (h : Placed held table) (hr : r ∉ table) (k : κ) :
    Placed (Function.update held k (r :: held k)) (r :: table) := by
  have hnew : ∀ l, r ∉ held l := fun l hl => hr (h.listed l r hl)
  have hmem : ∀ l x, x ∈ Function.update held k (r :: held k) l ↔ x ∈ held l ∨ l = k ∧ x = r := by
    intro l x
    by_cases hl : l = k
    · subst hl
      rw [Function.update_self, List.mem_cons, or_comm]
      simp
    · simp [hl]
  refine ⟨List.nodup_cons.2 ⟨hr, h.once⟩, fun l => ?_, fun l x hx => ?_, fun l m x hl hm => ?_⟩
  · by_cases hl : l = k
    · subst hl
      rw [Function.update_self]
      exact List.nodup_cons.2 ⟨hnew l, h.nodup l⟩
    · rw [Function.update_of_ne hl]
      exact h.nodup l
  · rcases (hmem l x).1 hx with hx | ⟨-, rfl⟩
    · exact List.mem_cons_of_mem _ (h.listed l x hx)
    · exact List.mem_cons_self
  · rcases (hmem l x).1 hl with hl' | ⟨hl', rfl⟩
    · rcases (hmem m x).1 hm with hm' | ⟨-, rfl⟩
      · exact h.apart l m x hl' hm'
      · exact absurd hl' (hnew l)
    · rcases (hmem m x).1 hm with hm' | ⟨hm', -⟩
      · exact absurd hm' (hnew m)
      · rw [hl', hm']

variable [DecidableEq ρ]

/-- What is closed was in this place only. -/
theorem Placed.closes (h : Placed held table) (hr : r ∈ held k) :
    Placed (Function.update held k ((held k).erase r)) (table.erase r) := by
  have hmem : ∀ l x, x ∈ Function.update held k ((held k).erase r) l ↔ x ∈ held l ∧ x ≠ r := by
    intro l x
    by_cases hl : l = k
    · subst hl
      rw [Function.update_self, (h.nodup l).mem_erase_iff, and_comm]
    · rw [Function.update_of_ne hl, Iff.comm, and_iff_left_iff_imp]
      rintro hx rfl
      exact hl (h.apart l k x hx hr)
  refine ⟨h.once.erase r, fun l => ?_, fun l x hx => ?_, fun l m x hl hm => ?_⟩
  · by_cases hl : l = k
    · subst hl
      rw [Function.update_self]
      exact (h.nodup l).erase r
    · rw [Function.update_of_ne hl]
      exact h.nodup l
  · obtain ⟨hx, hne⟩ := (hmem l x).1 hx
    exact h.once.mem_erase_iff.2 ⟨hne, h.listed l x hx⟩
  · exact h.apart l m x ((hmem l x).1 hl).1 ((hmem m x).1 hm).1

/-- A handle goes from one place to another: it leaves the table and comes back. -/
theorem Placed.moves (h : Placed held table) (hr : r ∈ held k) (hkl : l ≠ k) :
    Placed (Function.update (Function.update held k ((held k).erase r)) l (r :: held l)) table := by
  have hback : Placed _ (r :: table.erase r) := (h.closes hr).opens (fun hm => (h.once.mem_erase_iff.1 hm).1 rfl) l
  rw [Function.update_of_ne hkl] at hback
  exact hback.of_perm (List.perm_cons_erase (h.listed k r hr)).symm

end

/-! ## Several parties -/

/-- What an event does to a handle. One that is given is under way until somebody takes it. -/
inductive Deal (ρ : Type) where
  | opens (r : ρ)
  | closes (r : ρ)
  | gives (r : ρ)
  | takes (r : ρ)
  | keeps

section
variable {ρ : Type}

/-- To what the party of the event holds. -/
def Deal.own : Deal ρ → Change ρ
  | .opens r | .takes r => .opens r
  | .closes r | .gives r => .closes r
  | .keeps => .keeps

/-- To the table, where it does not matter who holds a handle. -/
def Deal.listed : Deal ρ → Change ρ
  | .opens r => .opens r
  | .closes r => .closes r
  | .gives _ | .takes _ | .keeps => .keeps

/-- To what is under way. -/
def Deal.passed : Deal ρ → Change ρ
  | .gives r => .opens r
  | .takes r => .closes r
  | .opens _ | .closes _ | .keeps => .keeps

/-- Nothing is opened that is in the table. -/
def Deal.OpensNew (table : List ρ) : Deal ρ → Prop
  | .opens r => r ∉ table
  | _ => True

/-- What is taken is under way. -/
def Deal.TakesGiven (underWay : List ρ) : Deal ρ → Prop
  | .takes r => r ∈ underWay
  | _ => True

/-- Without handing anything over. -/
def Deal.alone : Change ρ → Deal ρ
  | .opens r => .opens r
  | .closes r => .closes r
  | .keeps => .keeps

@[simp]
theorem Deal.own_alone (c : Change ρ) : (Deal.alone c).own = c := by cases c <;> rfl

variable [DecidableEq ρ] {held : List ρ}

instance (d : Deal ρ) : Decidable (d.OpensNew held) :=
  match d with
  | .opens r => inferInstanceAs (Decidable (r ∉ held))
  | .closes _ | .gives _ | .takes _ | .keeps => .isTrue trivial

instance (d : Deal ρ) : Decidable (d.TakesGiven held) :=
  match d with
  | .takes r => inferInstanceAs (Decidable (r ∈ held))
  | .opens _ | .closes _ | .gives _ | .keeps => .isTrue trivial

end

/-- The pasts of a trace are its initial parts. -/
theorem forall_past {α : Type} {t : List α} {P : List α → α → Prop} :
    (∀ p x s, t = p ++ x :: s → P p x) ↔ ∀ k : Fin t.length, P (t.take k) t[k] := by
  constructor
  · intro h k
    exact h _ _ (t.drop (k + 1)) (by simp)
  · rintro h p x s rfl
    have hk := h ⟨p.length, by simp⟩
    simpa using hk

section
variable {ε ρ ι : Type} [DecidableEq ρ] [DecidableEq ι] (deal : ε → Deal ρ)

/-- The handles that are open. -/
def table (t : List (ι × ε)) : List ρ := heldAfter (fun e => (deal e.2).listed) [] t

/-- The handles that were given and not taken yet. -/
def underWay (t : List (ι × ε)) : List ρ := heldAfter (fun e => (deal e.2).passed) [] t

/-- The handles of a party. -/
def heldBy (t : List (ι × ε)) (i : ι) : List ρ := heldAfter (fun e => (deal e).own) [] (ofParty t i)

/-- What is opened is not open. -/
def Fresh (t : List (ι × ε)) : Prop := ∀ p x s, t = p ++ x :: s → (deal x.2).OpensNew (table deal p)

/-- What is taken was given, and is taken once. -/
def Passed (t : List (ι × ε)) : Prop := ∀ p x s, t = p ++ x :: s → (deal x.2).TakesGiven (underWay deal p)

/-- With a party, or under way. -/
def places (t : List (ι × ε)) : Option ι → List ρ
  | some i => heldBy deal t i
  | none => underWay deal t

instance (t : List (ι × ε)) : Decidable (Fresh deal t) := decidable_of_iff' _ forall_past

instance (t : List (ι × ε)) : Decidable (Passed deal t) := decidable_of_iff' _ forall_past

variable {deal} {uses : ε → List ρ} {t p s : List (ι × ε)} {i j : ι} {e : ε} {r : ρ}

theorem ofParty_snoc : ofParty (p ++ [(i, e)]) j = ofParty p j ++ if i = j then [e] else [] := by
  by_cases h : i = j
  · simp [ofParty, h]
  · simp [ofParty, h]

theorem ofParty_split : ofParty (p ++ (i, e) :: s) i = ofParty p i ++ e :: ofParty s i := by simp [ofParty]

omit [DecidableEq ι] in
theorem table_snoc : table deal (p ++ [(i, e)]) = behind (table deal p) (deal e).listed := heldAfter_append

omit [DecidableEq ι] in
theorem underWay_snoc : underWay deal (p ++ [(i, e)]) = behind (underWay deal p) (deal e).passed := heldAfter_append

theorem heldBy_snoc : heldBy deal (p ++ [(i, e)]) i = behind (heldBy deal p i) (deal e).own := by
  rw [heldBy, ofParty_snoc, if_pos rfl, heldAfter_append]
  rfl

theorem heldBy_snoc_of_ne (h : j ≠ i) : heldBy deal (p ++ [(i, e)]) j = heldBy deal p j := by
  rw [heldBy, ofParty_snoc, if_neg h.symm, List.append_nil]
  rfl

/-- An event reaches its own party and what is under way. -/
theorem places_snoc : places deal (p ++ [(i, e)]) =
    Function.update (Function.update (places deal p) (some i) (behind (heldBy deal p i) (deal e).own)) none
      (behind (underWay deal p) (deal e).passed) := by
  funext k
  cases k with
  | none =>
    rw [Function.update_self]
    exact underWay_snoc
  | some j =>
    rw [Function.update_of_ne (Option.some_ne_none j)]
    by_cases hj : j = i
    · subst hj
      rw [Function.update_self]
      exact heldBy_snoc
    · rw [Function.update_of_ne fun h => hj (Option.some_inj.1 h)]
      exact heldBy_snoc_of_ne hj

/-- An event that hands nothing over reaches its own party. -/
theorem places_snoc_alone (h : (deal e).passed = .keeps) : places deal (p ++ [(i, e)]) =
    Function.update (places deal p) (some i) (behind (heldBy deal p i) (deal e).own) := by
  rw [places_snoc, h, Function.update_eq_self_iff, Function.update_of_ne (Option.some_ne_none i).symm]
  rfl

/-- Every open handle stays in one place. By induction on the past, and by what the last event deals. -/
theorem placed (hfresh : Fresh deal t) (hpassed : Passed deal t)
    (hloses : ∀ e r, (deal e).own = .closes r → r ∈ uses e)
    (hcareful : ∀ i, Careful (fun e => (deal e).own) uses [] (ofParty t i)) (ht : t = p ++ s) :
    Placed (places deal p) (table deal p) := by
  induction p using List.reverseRecOn generalizing s with
  | nil =>
    have hnone : ∀ k, places deal ([] : List (ι × ε)) k = [] := by
      intro k
      cases k with
      | none => rfl
      | some i => rfl
    exact ⟨List.nodup_nil, by simp [hnone], by simp [hnone], by simp [hnone]⟩
  | append_singleton p x ih =>
    obtain ⟨i, e⟩ := x
    rw [List.append_assoc, List.singleton_append] at ht
    have h : Placed (places deal p) (table deal p) := ih ht
    have hheld : ∀ r, (deal e).own = .closes r → r ∈ places deal p (some i) := by
      intro r hr
      have hsplit := ofParty_split (p := p) (e := e) (s := s) (i := i)
      rw [← ht] at hsplit
      exact hcareful i _ e _ hsplit r (hloses e r hr)
    rw [table_snoc]
    cases hd : deal e with
    | opens r =>
      rw [places_snoc_alone (by rw [hd]; rfl), hd]
      have hnew := hfresh p (i, e) s ht
      rw [hd] at hnew
      exact h.opens hnew (some i)
    | closes r =>
      rw [places_snoc_alone (by rw [hd]; rfl), hd]
      exact h.closes (hheld r (by rw [hd]; rfl))
    | gives r =>
      rw [places_snoc, hd]
      exact h.moves (hheld r (by rw [hd]; rfl)) (Option.some_ne_none i).symm
    | takes r =>
      have hgiven := hpassed p (i, e) s ht
      rw [hd] at hgiven
      have hmoved := h.moves (k := none) hgiven (Option.some_ne_none i)
      rw [places_snoc, hd, Function.update_comm (Option.some_ne_none i)]
      exact hmoved
    | keeps =>
      rw [places_snoc_alone (by rw [hd]; rfl), hd]
      exact (Function.update_eq_self (some i) (places deal p)).symm ▸ h

theorem isolated (hfresh : Fresh deal t) (hpassed : Passed deal t)
    (hloses : ∀ e r, (deal e).own = .closes r → r ∈ uses e)
    (hcareful : ∀ i, Careful (fun e => (deal e).own) uses [] (ofParty t i)) (ht : t = p ++ (i, e) :: s) (hr : r ∈ uses e) :
    r ∈ table deal p ∧ r ∈ heldBy deal p i ∧ ∀ j, j ≠ i → r ∉ heldBy deal p j := by
  have h : Placed (places deal p) (table deal p) := placed hfresh hpassed hloses hcareful ht
  have hsplit := ofParty_split (p := p) (e := e) (s := s) (i := i)
  rw [← ht] at hsplit
  have hheld : r ∈ places deal p (some i) := hcareful i _ e _ hsplit r hr
  refine ⟨h.listed (some i) r hheld, hheld, fun j hj hr' => hj ?_⟩
  exact Option.some_inj.1 (h.apart (some j) (some i) r hr' hheld)

end

/-! ## Programs -/

section
variable {C : Type} {R : C → Type} {σ ε φ α ρ : Type} [DecidableEq ρ] {change : Sigma R → Change ρ}
  {uses : Sigma R → List ρ} {x : Eff R σ ε φ α} {w : World R σ} {a : List ρ}

variable (change uses) in
/-- Nothing is opened or closed, and only `a` is used. -/
def Within (a : List ρ) (e : Sigma R) : Prop := change e = .keeps ∧ ∀ r ∈ uses e, r ∈ a

theorem spends_of_only (hx : Only (Within change uses a) x) (w : World R σ) :
    Spends (Minds change uses) x w a fun _ _ _ b => b = a :=
  (hx w).imp fun _ _ _ hu => ⟨a, rfl, minds_inert hu⟩

theorem spends_of_steady (hx : Steady (Within change uses a) x) (w : World R σ) :
    Spends (Minds change uses) x w a fun _ s _ b => s = w.store ∧ b = a :=
  (hx w).imp fun _ _ _ hu => ⟨a, ⟨hu.1, rfl⟩, minds_inert hu.2⟩

end

end Tenure
