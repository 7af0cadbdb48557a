import Mathlib.Algebra.Ring.Nat
import Mathlib.Data.List.Nodup
import SnakeSocks.Lib.Lts

/-!
# `ThreadPool`

| here | there |
| --- | --- |
| `Pool` | the members of `ThreadPool` (`threadPool.hpp:88-90`) |
| `addTask`, `joinAll`, `newWorker`, `tryShrink` | the functions of the same names (`:36-86`) |
| `Reads` | what the reads of `isWaiting` return during one `addTask` |
| `advance` | `++` on the iterator of the loop in `try_shrink` |

The pool is used by one thread, so that only the flags change under a call. `go` and `join` touch neither the list nor the
counter, and what they read of the flags is left out; a call that waits in them for ever does not return. Workers are
constructed without an error. Nobody has `2 ^ 64` workers, so `++currSize` is not reduced, but `usualSize * 3` is.

`try_shrink` removes a worker's node from the list it is walking over and then goes on from that node. `advance` stops there
with an error. `advanceAnyway` is for comparison: the freed node still leads to the next one.
-/

namespace SnakeSocks.ThreadPool

/-! ## The pool -/

/-- A worker stands for the pointer to it, and is named by how many were constructed before. -/
abbrev Worker := Nat

structure Pool where
  usualSize : Nat
  currSize : Nat
  workers : List Worker
  /-- How many workers were constructed so far. -/
  made : Nat

def Pool.init (usualSize : Nat) : Pool := ⟨usualSize, 0, [], 0⟩

inductive Fault where
  | erasedNode
deriving DecidableEq

/-- `scan w` in the loop of `addTask`, `shrink w` in that of `try_shrink`: the worker may change its mind between them. -/
structure Reads where
  scan : Worker → Bool
  shrink : Worker → Bool

/-- `++it` from the node of a worker. -/
abbrev Advance := Pool → Worker → Except Fault Unit

/-- Only a node of the list leads to another. -/
def advance : Advance := fun p pwk => if pwk ∈ p.workers then .ok () else .error .erasedNode

def advanceAnyway : Advance := fun _ _ => .ok ()

/-- `delete pwk; workers.remove(pwk); --currSize;` -/
def Pool.drop (p : Pool) (pwk : Worker) : Pool :=
  { p with workers := p.workers.filter (· ≠ pwk), currSize := p.currSize - 1 }

/-- The loop of `try_shrink`; the list has the nodes from the iterator to the end. -/
def shrinkLoop (next : Advance) (isWaiting : Worker → Bool) : List Worker → Pool → Except Fault Pool
  | [], p => .ok p
  | pwk :: ahead, p =>
    if !isWaiting pwk then do
      next p pwk
      shrinkLoop next isWaiting ahead p
    else if p.currSize ≤ p.usualSize then
      .ok p
    else do
      next (p.drop pwk) pwk
      shrinkLoop next isWaiting ahead (p.drop pwk)

def tryShrink (next : Advance) (isWaiting : Worker → Bool) (p : Pool) : Except Fault Pool :=
  if p.currSize ≤ p.usualSize * 3 % 2 ^ 64 then .ok p else shrinkLoop next isWaiting p.workers p

/-- `new worker()`, `push_back` and `++currSize`. -/
def Pool.push (p : Pool) : Pool :=
  { p with workers := p.workers ++ [p.made], currSize := p.currSize + 1, made := p.made + 1 }

def newWorker (next : Advance) (isWaiting : Worker → Bool) (p : Pool) : Except Fault (Pool × Worker) := do
  let p ← tryShrink next isWaiting p
  return (p.push, p.made)

/-- The second component is the worker whose `go` is called. -/
def addTask (next : Advance) (r : Reads) (p : Pool) : Except Fault (Pool × Worker) :=
  match p.workers.find? r.scan with
  | some pwk => .ok (p, pwk)
  | none => newWorker next r.shrink p

def joinAll (p : Pool) : Pool := { p with workers := [], currSize := 0 }

inductive Call where
  | addTask (r : Reads)
  | joinAll

def Call.run (next : Advance) (p : Pool) : Call → Except Fault Pool
  | .addTask r => (ThreadPool.addTask next r p).map Prod.fst
  | .joinAll => .ok (ThreadPool.joinAll p)

/-- The states between calls. A call that fails has none after it. -/
def pool (next : Advance) (usualSize : Nat) : Lts.System Pool Call where
  init := .init usualSize
  enabled p c := ∃ p', c.run next p = .ok p'
  next p c := (c.run next p).toOption.getD p

/-! ## What the pool is for -/

def Pool.Counted (p : Pool) : Prop := p.currSize = p.workers.length

/-- What `try_shrink` may do to a pool. -/
structure Shrunk (isWaiting : Worker → Bool) (p p' : Pool) : Prop where
  onlyWaiting : ∀ pwk ∈ p.workers, pwk ∉ p'.workers → isWaiting pwk = true
  inOrder : p'.workers.Sublist p.workers
  /-- Nothing goes from a small pool. -/
  small : p.currSize ≤ p.usualSize * 3 → p'.workers = p.workers
  /-- What goes leaves the usual size. -/
  stops : p'.workers ≠ p.workers → p.usualSize ≤ p'.currSize
  counted : p'.Counted

/-- A call returns, with the counter right and the list shrunk as it should be. -/
def Kept (next : Advance) (p : Pool) : Call → Prop
  | .addTask r => ∃ p' pwk, addTask next r p = .ok (p', pwk) ∧ p'.Counted ∧
      (p.workers.find? r.scan = none →
        ∃ q, tryShrink next r.shrink p = .ok q ∧ Shrunk r.shrink p q ∧ p'.workers = q.workers ++ [pwk])
  | .joinAll => (joinAll p).Counted

/-- Somebody waits when `addTask` looks, or the pool is small, or nobody waits when `try_shrink` looks. -/
def Quiet (p : Pool) : Call → Prop
  | .addTask r => (∃ pwk ∈ p.workers, r.scan pwk = true) ∨ p.currSize ≤ p.usualSize * 3 % 2 ^ 64 ∨
      p.currSize ≤ p.usualSize ∨ ∀ pwk ∈ p.workers, r.shrink pwk = false
  | .joinAll => True

/-! ## The list and the counter -/

/-- The counter is right, and no pointer is in the list twice or before its time. -/
structure Sound (p : Pool) : Prop where
  counted : p.Counted
  nodup : p.workers.Nodup
  fresh : ∀ pwk ∈ p.workers, pwk < p.made

section
variable {p q r : Pool} {pwk : Worker} {next : Advance} {isWaiting : Worker → Bool} {ahead : List Worker}

theorem Sound.init (usualSize : Nat) : Sound (.init usualSize) := ⟨rfl, List.nodup_nil, nofun⟩

theorem Sound.drop (h : Sound p) (hm : pwk ∈ p.workers) : Sound (p.drop pwk) := by
  have hfilter : p.workers.filter (· ≠ pwk) = p.workers.erase pwk := by
    rw [h.nodup.erase_eq_filter]
    apply List.filter_congr
    intro x _
    by_cases hx : x = pwk <;> simp [hx]
  refine ⟨?_, h.nodup.filter _, ?_⟩
  · show p.currSize - 1 = (p.workers.filter (· ≠ pwk)).length
    rw [hfilter, List.length_erase_of_mem hm, h.counted]
  · intro x hx
    exact h.fresh x (List.mem_of_mem_filter hx)

theorem Sound.push (h : Sound p) : Sound p.push := by
  have hnew : p.made ∉ p.workers := fun hm => absurd (h.fresh _ hm) (Nat.lt_irrefl _)
  refine ⟨?_, ?_, ?_⟩
  · show p.currSize + 1 = (p.workers ++ [p.made]).length
    rw [List.length_append, h.counted]
    rfl
  · refine List.nodup_append.2 ⟨h.nodup, List.nodup_singleton _, ?_⟩
    rintro a ha b hb rfl
    exact hnew (List.mem_singleton.1 hb ▸ ha)
  · intro x hx
    rcases List.mem_append.1 hx with hx | hx
    · exact Nat.lt_succ_of_lt (h.fresh x hx)
    · rw [List.mem_singleton.1 hx]
      exact Nat.lt_succ_self _

theorem Sound.joinAll (p : Pool) : Sound (joinAll p) := ⟨rfl, List.nodup_nil, nofun⟩

/-! ## `try_shrink` -/

/-- What a part of the loop does. -/
structure Shrinks (isWaiting : Worker → Bool) (p q : Pool) : Prop where
  usualSize : q.usualSize = p.usualSize
  onlyWaiting : ∀ pwk ∈ p.workers, pwk ∉ q.workers → isWaiting pwk = true
  inOrder : q.workers.Sublist p.workers
  stops : q.workers ≠ p.workers → p.usualSize ≤ q.currSize
  sound : Sound q

theorem Shrinks.refl (h : Sound p) : Shrinks isWaiting p p where
  usualSize := rfl
  onlyWaiting _ hm hn := absurd hm hn
  inOrder := .refl _
  stops h := absurd rfl h
  sound := h

theorem Shrinks.trans (h₁ : Shrinks isWaiting p q) (h₂ : Shrinks isWaiting q r) : Shrinks isWaiting p r := by
  refine ⟨h₂.usualSize.trans h₁.usualSize, ?_, h₂.inOrder.trans h₁.inOrder, ?_, h₂.sound⟩
  · intro pwk hp hr
    by_cases hq : pwk ∈ q.workers
    · exact h₂.onlyWaiting pwk hq hr
    · exact h₁.onlyWaiting pwk hp hq
  · intro hne
    by_cases hrq : r.workers = q.workers
    · have hle := h₁.stops (hrq ▸ hne)
      rwa [h₁.sound.counted, ← hrq, ← h₂.sound.counted] at hle
    · have hle := h₂.stops hrq
      rwa [h₁.usualSize] at hle

/-- One round that removes. -/
theorem Shrinks.drop (h : Sound p) (hm : pwk ∈ p.workers) (hw : isWaiting pwk = true) (hc : p.usualSize < p.currSize) :
    Shrinks isWaiting p (p.drop pwk) where
  usualSize := rfl
  onlyWaiting x hx hn := by
    by_cases he : x = pwk
    · rwa [he]
    · exact absurd (List.mem_filter.2 ⟨hx, by simpa using he⟩) hn
  inOrder := List.filter_sublist
  stops _ := Nat.le_sub_one_of_lt hc
  sound := h.drop hm

/-- The whole loop, if it may go on from where it was. -/
theorem shrinkLoop_anyway (h : Sound p) (hm : ∀ x ∈ ahead, x ∈ p.workers) (hn : ahead.Nodup) :
    ∃ q, shrinkLoop advanceAnyway isWaiting ahead p = .ok q ∧ Shrinks isWaiting p q := by
  induction ahead generalizing p with
  | nil => exact ⟨p, rfl, .refl h⟩
  | cons pwk ahead ih =>
    obtain ⟨hnot, hn⟩ := List.nodup_cons.1 hn
    by_cases hw : isWaiting pwk = true
    · by_cases hc : p.currSize ≤ p.usualSize
      · refine ⟨p, ?_, .refl h⟩
        simp [shrinkLoop, hw, hc]
      · have hdrop := Shrinks.drop h (hm pwk (by simp)) hw (by omega)
        obtain ⟨q, hq, hs⟩ := ih hdrop.sound (by
          intro x hx
          refine List.mem_filter.2 ⟨hm x (by simp [hx]), ?_⟩
          have hne : x ≠ pwk := fun he => hnot (he ▸ hx)
          simpa using hne) hn
        refine ⟨q, ?_, hdrop.trans hs⟩
        rw [shrinkLoop, hw, if_neg (by simp), if_neg hc, ← hq]
        rfl
    · obtain ⟨q, hq, hs⟩ := ih h (fun x hx => hm x (by simp [hx])) hn
      refine ⟨q, ?_, hs⟩
      rw [shrinkLoop, if_pos (by simpa using hw), ← hq]
      rfl

/-- A loop that removes nothing. -/
theorem shrinkLoop_still (hnext : ∀ x ∈ ahead, next p x = .ok ())
    (hq : p.currSize ≤ p.usualSize ∨ ∀ x ∈ ahead, isWaiting x = false) : shrinkLoop next isWaiting ahead p = .ok p := by
  induction ahead with
  | nil => rfl
  | cons pwk ahead ih =>
    have ih := ih (fun x hx => hnext x (by simp [hx])) (hq.imp_right fun h x hx => h x (by simp [hx]))
    by_cases hw : isWaiting pwk = true
    · have hc : p.currSize ≤ p.usualSize := hq.resolve_right fun h => by simp [h pwk (by simp)] at hw
      simp [shrinkLoop, hw, hc]
    · rw [shrinkLoop, if_pos (by simpa using hw), hnext pwk (by simp), ← ih]
      rfl

/-- The first removal leaves the iterator on a node that is gone. -/
theorem shrinkLoop_erased (hm : ∀ x ∈ ahead, x ∈ p.workers) (hc : p.usualSize < p.currSize)
    (hw : ∃ x ∈ ahead, isWaiting x = true) : shrinkLoop advance isWaiting ahead p = .error .erasedNode := by
  induction ahead with
  | nil =>
    obtain ⟨x, hx, -⟩ := hw
    cases hx
  | cons pwk ahead ih =>
    by_cases hpwk : isWaiting pwk = true
    · have hgone : advance (p.drop pwk) pwk = .error .erasedNode := if_neg (by simp [Pool.drop])
      rw [shrinkLoop, hpwk, if_neg (by simp), if_neg (by omega), hgone]
      rfl
    · have hrest : ∃ x ∈ ahead, isWaiting x = true := by
        obtain ⟨x, hx, hxw⟩ := hw
        rcases List.mem_cons.1 hx with rfl | hx
        · exact absurd hxw hpwk
        · exact ⟨x, hx, hxw⟩
      have hon : advance p pwk = .ok () := if_pos (hm pwk (by simp))
      rw [shrinkLoop, if_pos (by simpa using hpwk), hon, ← ih (fun x hx => hm x (by simp [hx])) hrest]
      rfl

theorem Shrinks.shrunk (h : Shrinks isWaiting p q) (hsmall : p.currSize ≤ p.usualSize * 3 → q.workers = p.workers) :
    Shrunk isWaiting p q := ⟨h.onlyWaiting, h.inOrder, hsmall, h.stops, h.sound.counted⟩

/-- `try_shrink` with an iterator that survives. -/
theorem tryShrink_anyway (h : Sound p) : ∃ q, tryShrink advanceAnyway isWaiting p = .ok q ∧ Shrinks isWaiting p q := by
  by_cases hc : p.currSize ≤ p.usualSize * 3 % 2 ^ 64
  · exact ⟨p, if_pos hc, .refl h⟩
  · obtain ⟨q, hq, hs⟩ := @shrinkLoop_anyway p isWaiting p.workers h (fun _ hx => hx) h.nodup
    exact ⟨q, by rw [tryShrink, if_neg hc, hq], hs⟩

/-- Only a product that overflows lets it take workers from a small pool. -/
theorem tryShrink_small (h3 : p.usualSize * 3 < 2 ^ 64) (hq : tryShrink next isWaiting p = .ok q)
    (hc : p.currSize ≤ p.usualSize * 3) : q.workers = p.workers := by
  rw [tryShrink, if_pos (by rwa [Nat.mod_eq_of_lt h3])] at hq
  cases hq
  rfl

/-- `try_shrink` as it is: it removes nothing, or does not return. -/
theorem tryShrink_quiet (hq : p.currSize ≤ p.usualSize * 3 % 2 ^ 64 ∨ p.currSize ≤ p.usualSize ∨
    ∀ x ∈ p.workers, isWaiting x = false) : tryShrink advance isWaiting p = .ok p := by
  by_cases hc : p.currSize ≤ p.usualSize * 3 % 2 ^ 64
  · exact if_pos hc
  · rw [tryShrink, if_neg hc]
    exact shrinkLoop_still (fun _ hx => if_pos hx) (hq.resolve_left hc)

theorem tryShrink_erased (hc : ¬p.currSize ≤ p.usualSize * 3 % 2 ^ 64) (hu : ¬p.currSize ≤ p.usualSize)
    (hw : ∃ x ∈ p.workers, isWaiting x = true) : tryShrink advance isWaiting p = .error .erasedNode := by
  rw [tryShrink, if_neg hc]
  exact shrinkLoop_erased (fun _ hx => hx) (by omega) hw

theorem eq_of_tryShrink (h : tryShrink advance isWaiting p = .ok q) : q = p := by
  by_cases hq : p.currSize ≤ p.usualSize * 3 % 2 ^ 64 ∨ p.currSize ≤ p.usualSize ∨ ∀ x ∈ p.workers, isWaiting x = false
  · rw [tryShrink_quiet hq] at h
    cases h
    rfl
  · rw [not_or, not_or] at hq
    rw [tryShrink_erased hq.1 hq.2.1 (by simpa using hq.2.2)] at h
    cases h

end

/-! ## Calls -/

section
variable {p p' : Pool} {next : Advance} {usualSize : Nat}

/-- `try_shrink` shrinks a sound pool. -/
def Sane (next : Advance) : Prop :=
  ∀ isWaiting p q, Sound p → tryShrink next isWaiting p = .ok q → Shrinks isWaiting p q

theorem sane_advance : Sane advance := by
  intro isWaiting p q h hq
  rw [eq_of_tryShrink hq]
  exact .refl h

theorem sane_advanceAnyway : Sane advanceAnyway := by
  intro isWaiting p q h hq
  obtain ⟨q', hq', hs⟩ := @tryShrink_anyway p isWaiting h
  cases hq.symm.trans hq'
  exact hs

theorem addTask_of_waiting {r : Reads} {pwk : Worker} (h : p.workers.find? r.scan = some pwk) :
    addTask next r p = .ok (p, pwk) := by
  rw [addTask, h]

theorem addTask_of_busy {r : Reads} {q : Pool} (h : p.workers.find? r.scan = none)
    (hq : tryShrink next r.shrink p = .ok q) : addTask next r p = .ok (q.push, q.made) := by
  rw [addTask, h]
  show newWorker next r.shrink p = _
  rw [newWorker, hq]
  rfl

theorem run_sound (hn : Sane next) (h : Sound p) (c : Call) (hr : c.run next p = .ok p') :
    Sound p' ∧ p'.usualSize = p.usualSize := by
  cases c with
  | joinAll =>
    cases hr
    exact ⟨.joinAll p, rfl⟩
  | addTask r =>
    rw [Call.run] at hr
    cases hf : p.workers.find? r.scan with
    | some pwk =>
      rw [addTask_of_waiting hf] at hr
      cases hr
      exact ⟨h, rfl⟩
    | none =>
      cases hq : tryShrink next r.shrink p with
      | error e =>
        rw [addTask, hf] at hr
        simp only [newWorker, hq] at hr
        cases hr
      | ok q =>
        rw [addTask_of_busy hf hq] at hr
        cases hr
        have hs := hn _ p q h hq
        exact ⟨hs.sound.push, hs.usualSize⟩

theorem sound_of_reachable (hn : Sane next) (hr : (pool next usualSize).Reachable p) :
    Sound p ∧ p.usualSize = usualSize := by
  refine hr.induct (I := fun p => Sound p ∧ p.usualSize = usualSize) ⟨.init usualSize, rfl⟩ ?_
  rintro p c - ⟨h, hu⟩ ⟨p', hp'⟩ -
  have hnext : (pool next usualSize).next p c = p' := by
    show (c.run next p).toOption.getD p = p'
    rw [hp']
    rfl
  obtain ⟨h', hu'⟩ := run_sound hn h c hp'
  rw [hnext]
  exact ⟨h', hu'.trans hu⟩

theorem kept_addTask (h : Sound p) (r : Reads)
    (hq : p.workers.find? r.scan = none → ∃ q, tryShrink next r.shrink p = .ok q ∧ Sound q ∧ Shrunk r.shrink p q) :
    Kept next p (.addTask r) := by
  cases hf : p.workers.find? r.scan with
  | some pwk => exact ⟨p, pwk, addTask_of_waiting hf, h.counted, fun hn => by simp [hf] at hn⟩
  | none =>
    obtain ⟨q, hq, hs, hshrunk⟩ := hq hf
    exact ⟨_, _, addTask_of_busy hf hq, hs.push.counted, fun _ => ⟨q, hq, hshrunk, rfl⟩⟩

theorem quiet_of_kept {r : Reads} (h : Kept advance p (.addTask r)) : Quiet p (.addTask r) := by
  obtain ⟨p', pwk, hadd, -, -⟩ := h
  by_contra hq
  simp only [Quiet, not_or] at hq
  obtain ⟨hscan, hc, hu, hw⟩ := hq
  have hf : p.workers.find? r.scan = none := by
    rw [List.find?_eq_none]
    intro x hx hs
    exact hscan ⟨x, hx, hs⟩
  rw [addTask, hf] at hadd
  simp only [newWorker, tryShrink_erased hc hu (by simpa using hw)] at hadd
  cases hadd

theorem kept_of_quiet (h : Sound p) {c : Call} (hq : Quiet p c) : Kept advance p c := by
  cases c with
  | joinAll => rfl
  | addTask r =>
    refine kept_addTask h r fun hf => ⟨p, tryShrink_quiet (hq.resolve_left ?_), h, (Shrinks.refl h).shrunk fun _ => rfl⟩
    rintro ⟨x, hx, hs⟩
    exact List.find?_eq_none.1 hf x hx hs

theorem kept_anyway (h : Sound p) (h3 : p.usualSize * 3 < 2 ^ 64) (c : Call) : Kept advanceAnyway p c := by
  cases c with
  | joinAll => rfl
  | addTask r =>
    obtain ⟨q, hq, hs⟩ := @tryShrink_anyway p r.shrink h
    exact kept_addTask h r fun _ => ⟨q, hq, hs.sound, hs.shrunk (tryShrink_small h3 hq)⟩

end

/-- In every run of calls the counter is right between them, and the next call keeps everything exactly when it is quiet. Were
an erased node still to lead to the next one, every call of every run would, but for a `usualSize * 3` that overflows. -/
theorem thread_pool_kept_iff (usualSize : Nat) :
    (∀ p, (pool advance usualSize).Reachable p → p.Counted ∧ ∀ c, Kept advance p c ↔ Quiet p c) ∧
      ∀ p, (pool advanceAnyway usualSize).Reachable p → p.Counted ∧
        (usualSize * 3 < 2 ^ 64 → ∀ c, Kept advanceAnyway p c) := by
  constructor
  · intro p hr
    obtain ⟨h, -⟩ := sound_of_reachable sane_advance hr
    refine ⟨h.counted, fun c => ⟨fun hk => ?_, kept_of_quiet h⟩⟩
    cases c with
    | joinAll => trivial
    | addTask r => exact quiet_of_kept hk
  · intro p hr
    obtain ⟨h, hu⟩ := sound_of_reachable sane_advanceAnyway hr
    exact ⟨h.counted, fun h3 => kept_anyway h (hu.symm ▸ h3)⟩

/-- Every worker is busy whenever somebody looks. -/
def busy : Reads := ⟨fun _ => false, fun _ => false⟩

/-- Worker 0 finishes its task between the two loops. -/
def idleLater : Reads := ⟨fun _ => false, fun pwk => pwk = 0⟩

/-- A pool under steady load has a worker for each task. -/
theorem reach_busy (usualSize n : Nat) : (pool advance usualSize).Reachable ⟨usualSize, n, List.range n, n⟩ := by
  induction n with
  | zero => exact .init
  | succ n ih =>
    have hf : (List.range n).find? busy.scan = none := List.find?_eq_none.2 fun _ _ => Bool.false_ne_true
    have hq : tryShrink advance busy.shrink ⟨usualSize, n, List.range n, n⟩ = .ok ⟨usualSize, n, List.range n, n⟩ :=
      tryShrink_quiet (.inr (.inr fun _ _ => rfl))
    have hrun : (Call.addTask busy).run advance ⟨usualSize, n, List.range n, n⟩ =
        .ok ⟨usualSize, n + 1, List.range (n + 1), n + 1⟩ := by
      rw [Call.run, addTask_of_busy hf hq, List.range_succ]
      rfl
    have hstep := ih.step (.addTask busy) ⟨_, hrun⟩ trivial
    have hnext : (pool advance usualSize).next ⟨usualSize, n, List.range n, n⟩ (.addTask busy) =
        ⟨usualSize, n + 1, List.range (n + 1), n + 1⟩ := by
      show ((Call.addTask busy).run advance _).toOption.getD _ = _
      rw [hrun]
      rfl
    rwa [hnext] at hstep

/-- Thirteen workers of a pool of the default size, and a fourteenth. -/
theorem thread_pool_kept_iff_steady_load : ∃ p, (pool advance 4).Reachable p ∧ p.workers.length = 13 ∧
    Kept advance p (.addTask busy) := by
  have hr := reach_busy 4 13
  refine ⟨_, hr, rfl, ?_⟩
  exact (((thread_pool_kept_iff 4).1 _ hr).2 (.addTask busy)).2 (.inr (.inr (.inr fun _ _ => rfl)))

/-- The thirteenth worker makes the pool large, and worker 0 is idle when `try_shrink` looks. -/
theorem shrinking_goes_on_from_erased_node :
    ¬∀ p, (pool advance 4).Reachable p → ∀ c, Kept advance p c := by
  intro hall
  have hquiet := quiet_of_kept (hall _ (reach_busy 4 13) (.addTask idleLater))
  rcases hquiet with ⟨pwk, -, hs⟩ | hc | hu | hw
  · cases hs
  · exact absurd hc (by decide)
  · exact absurd hu (by decide)
  · exact absurd (hw 0 (by decide)) (by decide)

end SnakeSocks.ThreadPool
