import SnakeSocks.Lib.Lts
import SnakeSocks.Lib.Tally

/-!
# The worker pool of the Go server

| here | there |
| --- | --- |
| `StartPc` | `Server.Start` (`server.go:45`) from `dispatcher.Run(s)` on, with `Run` (`worker_pool.go:64`) inlined |
| `DispatchPc` | `dispatch` (`:72`) |
| `Handoff` | the goroutine `dispatch` starts for a job (`:76`) |
| `WorkerPc` | the goroutine of `Worker.Start` (`:32`) |
| `PoolState.jobQueue` | the package variable `JobQueue` (`:17`), `none` while it is `nil` |
| `PoolState.workerPool` | `d.WorkerPool`; a `JobChannel` is named by its worker |

`select` evaluates `JobQueue` when `dispatch` enters it, so `dispatch` has two steps for each job: the evaluation, and
the receive from the channel it found. A receive from a `nil` channel blocks for ever. The receive and the `go` statement
behind it are one step, as nothing that another goroutine sees happens between them. `JobChannel` is unbuffered: a send
and the receive meet in one step. `Worker.Stop` has no caller, so `quit` is left out, and `handle` is a call that may
return at any time or never (`Go/Handle.lean` is its inside). `Accept` may fail; what it returned is queued all the same.
Variables are read and written in one global order.
-/

namespace SnakeSocks.Go

open Tally

/-- `MaxWorker` and `MaxQueue`. -/
structure PoolConfig where
  maxWorker : Nat
  maxQueue : Nat
  maxWorker_pos : 0 < maxWorker
  maxQueue_pos : 0 < maxQueue

/-- The two constants of `worker_pool.go`. -/
def PoolConfig.source : PoolConfig := ⟨1024, 10240, by decide, by decide⟩

/-- `call` says which return of `Accept` made the job; `conn` is whether its `Payload` is not `nil`. -/
structure Job where
  call : Nat
  conn : Bool
deriving DecidableEq

/-! ## States and steps -/

/-- `run i`: the loop of `Run` has started `i` workers. -/
inductive StartPc where
  | run (i : Nat)
  | makeQueue
  | accept
  | send (job : Job)
deriving DecidableEq

/-- `parked`: in a receive from the `nil` channel. -/
inductive DispatchPc where
  | notStarted
  | select
  | parked
  | receive
deriving DecidableEq

inductive Handoff (n : Nat) where
  | waiting (job : Job)
  | holding (job : Job) (jobChannel : Fin n)
deriving DecidableEq

/-- `sending`: at `w.WorkerPool <- w.JobChannel`; `waiting`: in the `select` behind it. -/
inductive WorkerPc where
  | notStarted
  | sending
  | waiting
  | handling (job : Job)
deriving DecidableEq

structure PoolState (n : Nat) where
  start : StartPc
  jobQueue : Option (List Job)
  dispatch : DispatchPc
  handoffs : List (Handoff n)
  workerPool : List (Fin n)
  workers : Fin n → WorkerPc
  /-- What `Accept` has returned, in order. -/
  accepted : List Job
  /-- The jobs whose `handle` was called. -/
  calls : List Job
  /-- The jobs whose `handle` has returned. -/
  finished : List Job

def PoolState.init (n : Nat) : PoolState n := ⟨.run 0, none, .notStarted, [], [], fun _ => .notStarted, [], [], []⟩

inductive PoolAct (n : Nat) where
  | startWorker (i : Fin n)
  | goDispatch
  | makeQueue
  | accept (ok : Bool)
  | enqueue (job : Job)
  | evalQueue
  | receive (job : Job)
  | takeChannel (job : Job) (i : Fin n)
  | handJob (job : Job) (i : Fin n)
  | offer (i : Fin n)
  | handleReturns (i : Fin n) (job : Job)

section
variable (cfg : PoolConfig)

def PoolGuard (s : PoolState cfg.maxWorker) : PoolAct cfg.maxWorker → Prop
  | .startWorker i => s.start = .run i
  | .goDispatch => s.start = .run cfg.maxWorker
  | .makeQueue => s.start = .makeQueue
  | .accept _ => s.start = .accept
  | .enqueue job => s.start = .send job ∧ ∃ q ∈ s.jobQueue, q.length < cfg.maxQueue
  | .evalQueue => s.dispatch = .select
  | .receive job => s.dispatch = .receive ∧ ∃ q ∈ s.jobQueue, q.head? = some job
  | .takeChannel job i => .waiting job ∈ s.handoffs ∧ s.workerPool.head? = some i
  | .handJob job i => .holding job i ∈ s.handoffs ∧ s.workers i = .waiting
  | .offer i => s.workers i = .sending ∧ s.workerPool.length < cfg.maxWorker
  | .handleReturns i job => s.workers i = .handling job

instance (s : PoolState cfg.maxWorker) : ∀ a, Decidable (PoolGuard cfg s a) := by
  intro a
  cases a <;> dsimp only [PoolGuard] <;> infer_instance

def PoolStep {n : Nat} (s : PoolState n) : PoolAct n → PoolState n
  | .startWorker i => { s with start := .run (i + 1), workers := Function.update s.workers i .sending }
  | .goDispatch => { s with start := .makeQueue, dispatch := .select }
  | .makeQueue => { s with start := .accept, jobQueue := some [] }
  | .accept ok =>
    let job := ⟨s.accepted.length, ok⟩
    { s with start := .send job, accepted := s.accepted ++ [job] }
  | .enqueue job => { s with start := .accept, jobQueue := s.jobQueue.map (· ++ [job]) }
  | .evalQueue => { s with dispatch := if s.jobQueue.isSome then .receive else .parked }
  | .receive job =>
    { s with dispatch := .select, jobQueue := s.jobQueue.map List.tail, handoffs := s.handoffs ++ [.waiting job] }
  | .takeChannel job i =>
    { s with handoffs := s.handoffs.erase (.waiting job) ++ [.holding job i], workerPool := s.workerPool.tail }
  | .handJob job i =>
    { s with
      handoffs := s.handoffs.erase (.holding job i)
      workers := Function.update s.workers i (.handling job)
      calls := s.calls ++ [job] }
  | .offer i => { s with workers := Function.update s.workers i .waiting, workerPool := s.workerPool ++ [i] }
  | .handleReturns i job =>
    { s with workers := Function.update s.workers i .sending, finished := s.finished ++ [job] }

def pool : Lts.System (PoolState cfg.maxWorker) (PoolAct cfg.maxWorker) where
  init := .init cfg.maxWorker
  enabled := PoolGuard cfg
  next := PoolStep

instance (s : PoolState cfg.maxWorker) (a : PoolAct cfg.maxWorker) : Decidable ((pool cfg).enabled s a) :=
  inferInstanceAs (Decidable (PoolGuard cfg s a))

end

/-! ## How far `Start` is -/

def StartPc.inRun : StartPc → Bool
  | .run _ => true
  | _ => false

def StartPc.queueMade : StartPc → Bool
  | .accept | .send _ => true
  | _ => false

/-- The workers `Run` has not come to are not started, and `dispatch` is started last; `JobQueue` is made behind that. -/
structure Wired {n : Nat} (s : PoolState n) : Prop where
  fresh : ∀ k, s.start = .run k → ∀ i : Fin n, k ≤ i → s.workers i = .notStarted
  dispatch : s.dispatch = .notStarted ↔ s.start.inRun = true
  queue : s.jobQueue.isSome = s.start.queueMade
  live : s.dispatch = .receive → s.jobQueue.isSome = true

section
variable {cfg : PoolConfig} {s : PoolState cfg.maxWorker} {a : PoolAct cfg.maxWorker}

theorem Wired.init (n : Nat) : Wired (.init n) where
  fresh _ _ _ _ := rfl
  dispatch := iff_of_true rfl rfl
  queue := rfl
  live := nofun

/-- A worker that takes a step was started. -/
theorem Wired.fresh_update (h : Wired s) {i : Fin cfg.maxWorker} (hi : s.workers i ≠ .notStarted) (w : WorkerPc) :
    ∀ k, s.start = .run k → ∀ j : Fin cfg.maxWorker, k ≤ j → Function.update s.workers i w j = .notStarted := by
  intro k hk j hj
  have hfresh := h.fresh k hk j hj
  by_cases hij : j = i
  · subst hij
    exact absurd hfresh hi
  · rw [Function.update_of_ne hij, hfresh]

theorem wired_step (h : Wired s) (hg : PoolGuard cfg s a) : Wired (PoolStep s a) := by
  obtain ⟨hf, hd, hq, hl⟩ := h
  cases a with
  | startWorker i =>
    have hs : s.start = .run i := hg
    rw [hs] at hd hq
    refine ⟨?_, hd, hq, hl⟩
    rintro k ⟨⟩ j hj
    have hij : j ≠ i := by
      rintro rfl
      omega
    exact (Function.update_of_ne hij _ _).trans (hf i hs j (by omega))
  | goDispatch =>
    rw [show s.start = _ from hg] at hq
    exact ⟨nofun, by simp [PoolStep, StartPc.inRun], hq, nofun⟩
  | makeQueue =>
    rw [show s.start = _ from hg] at hd
    exact ⟨nofun, hd, rfl, fun _ => rfl⟩
  | accept ok =>
    rw [show s.start = _ from hg] at hd hq
    exact ⟨nofun, hd, hq, hl⟩
  | enqueue job =>
    rw [hg.1] at hd hq
    refine ⟨nofun, hd, ?_, ?_⟩
    · simpa [PoolStep, StartPc.queueMade] using hq
    · simpa [PoolStep] using hl
  | evalQueue =>
    rw [show s.dispatch = _ from hg] at hd
    refine ⟨hf, ?_, hq, ?_⟩
    · cases hj : s.jobQueue.isSome <;> simpa [PoolStep, hj] using hd
    · intro hr
      cases hj : s.jobQueue.isSome with
      | true => exact hj
      | false => simp [PoolStep, hj] at hr
  | receive job =>
    rw [hg.1] at hd
    refine ⟨hf, ?_, ?_, nofun⟩
    · simpa [PoolStep] using hd
    · simpa [PoolStep] using hq
  | takeChannel => exact ⟨hf, hd, hq, hl⟩
  | handJob job i => exact ⟨Wired.fresh_update ⟨hf, hd, hq, hl⟩ (by simp [hg.2]) _, hd, hq, hl⟩
  | offer i => exact ⟨Wired.fresh_update ⟨hf, hd, hq, hl⟩ (by simp [hg.1]) _, hd, hq, hl⟩
  | handleReturns i job =>
    exact ⟨Wired.fresh_update ⟨hf, hd, hq, hl⟩ (by simp [show s.workers i = _ from hg]) _, hd, hq, hl⟩

end

/-! ## Where the jobs and the channels are -/

def StartPc.sends (job : Job) : StartPc → Bool
  | .send j => j == job
  | _ => false

def WorkerPc.handles (job : Job) : WorkerPc → Bool
  | .handling j => j == job
  | _ => false

def WorkerPc.waits : WorkerPc → Bool
  | .waiting => true
  | _ => false

def Handoff.carries {n : Nat} (job : Job) : Handoff n → Bool
  | .waiting j | .holding j _ => j == job

def Handoff.holds {n : Nat} (i : Fin n) : Handoff n → Bool
  | .waiting _ => false
  | .holding _ j => j == i

/-- 1 at the step that calls `handle` for the job. -/
def PoolAct.enters {n : Nat} (job : Job) : PoolAct n → Nat
  | .handJob j _ => (j == job).toNat
  | _ => 0

/-- 1 at the step with which that `handle` returns. -/
def PoolAct.leaves {n : Nat} (job : Job) : PoolAct n → Nat
  | .handleReturns _ j => (j == job).toNat
  | _ => 0

section
variable {n : Nat} (s : PoolState n) (job : Job)

def PoolState.inQueue : Nat := (s.jobQueue.getD []).count job
def PoolState.inHandoff : Nat := s.handoffs.countP (Handoff.carries job)
def PoolState.inHandle : Nat := tally (WorkerPc.handles job) s.workers

/-- The copies of a job behind `Start`. -/
def PoolState.copies : Nat := s.inQueue job + s.inHandoff job + s.inHandle job + s.finished.count job

/-- How often a worker's `JobChannel` is in `WorkerPool` or with a hand-off. -/
def PoolState.offered (i : Fin n) : Nat := s.workerPool.count i + s.handoffs.countP (Handoff.holds i)

end

theorem StartPc.sends_eq_false {pc : StartPc} {job : Job} (h : pc ≠ .send job) : pc.sends job = false := by
  cases pc with
  | send j => exact beq_false_of_ne fun he => h (by rw [he])
  | _ => rfl

theorem WorkerPc.waits_eq_false {w : WorkerPc} (h : w ≠ .waiting) : w.waits = false := by
  cases w with
  | waiting => exact absurd rfl h
  | _ => rfl

/-- Every job is in one place, every `handle` was called once, and a `JobChannel` is on offer exactly while its worker
waits for it. -/
structure Placed {n : Nat} (s : PoolState n) : Prop where
  numbered : s.accepted.map Job.call = List.range s.accepted.length
  copies : ∀ job, (s.start.sends job).toNat + s.copies job = s.accepted.count job
  calls : ∀ job, s.calls.count job = s.inHandle job + s.finished.count job
  offered : ∀ i, s.offered i = (s.workers i).waits.toNat

section
variable {cfg : PoolConfig} {s : PoolState cfg.maxWorker} {a : PoolAct cfg.maxWorker}

theorem Placed.init (n : Nat) : Placed (.init n) := by
  have hnone : ∀ job, (PoolState.init n).inHandle job = 0 := fun job => tally_const_false rfl
  refine ⟨rfl, ?_, ?_, ?_⟩
  · intro job
    rw [PoolState.copies, hnone]
    rfl
  · intro job
    rw [hnone]
    rfl
  · intro i
    rfl

theorem numbered_step (h : s.accepted.map Job.call = List.range s.accepted.length) :
    (PoolStep s a).accepted.map Job.call = List.range (PoolStep s a).accepted.length := by
  cases a with
  | accept ok => simp [PoolStep, h, List.range_succ]
  | _ => exact h

theorem inHandle_update {f : Fin cfg.maxWorker → WorkerPc} (i : Fin cfg.maxWorker) (w : WorkerPc) (job : Job) :
    tally (WorkerPc.handles job) (Function.update f i w) + ((f i).handles job).toNat =
      tally (WorkerPc.handles job) f + (w.handles job).toNat :=
  tally_update i w

/-- A worker enters `handle` when it is handed the job, and leaves when `handle` returns. -/
theorem inHandle_step (hw : Wired s) (hg : PoolGuard cfg s a) (job : Job) :
    (PoolStep s a).inHandle job + a.leaves job = s.inHandle job + a.enters job := by
  simp only [PoolState.inHandle]
  cases a with
  | startWorker i =>
    have hu := inHandle_update (f := s.workers) i .sending job
    rwa [hw.fresh i hg i le_rfl] at hu
  | handJob j i =>
    have hu := inHandle_update (f := s.workers) i (.handling j) job
    rwa [hg.2] at hu
  | offer i =>
    have hu := inHandle_update (f := s.workers) i .waiting job
    rwa [hg.1] at hu
  | handleReturns i j =>
    have hu := inHandle_update (f := s.workers) i .sending job
    rwa [show s.workers i = _ from hg] at hu
  | _ => rfl

/-- With `handle` called for one more job, one more is in it or has been. -/
theorem handled_step (hw : Wired s) (hg : PoolGuard cfg s a) (job : Job) :
    (PoolStep s a).inHandle job + (PoolStep s a).finished.count job =
      s.inHandle job + s.finished.count job + a.enters job := by
  have hu := inHandle_step hw hg job
  have hfin : (PoolStep s a).finished.count job = s.finished.count job + a.leaves job := by
    cases a with
    | handleReturns i j => exact count_concat _
    | _ => rfl
  omega

theorem copies_step (hw : Wired s) (h : ∀ job, (s.start.sends job).toNat + s.copies job = s.accepted.count job)
    (hg : PoolGuard cfg s a) (job : Job) :
    ((PoolStep s a).start.sends job).toNat + (PoolStep s a).copies job = (PoolStep s a).accepted.count job := by
  specialize h job
  have hu := handled_step hw hg job
  simp only [PoolState.copies, PoolState.inQueue, PoolState.inHandoff] at h ⊢
  cases a with
  | startWorker i =>
    rw [show s.start = _ from hg] at h
    simp only [PoolStep, PoolAct.enters, StartPc.sends, Bool.toNat_false] at h hu ⊢
    omega
  | goDispatch =>
    rw [show s.start = _ from hg] at h
    exact h
  | makeQueue =>
    have hs : s.start = .makeQueue := hg
    have hnone : s.jobQueue = none := by simpa [hs, StartPc.queueMade] using hw.queue
    rw [hs, hnone] at h
    exact h
  | accept ok =>
    rw [show s.start = _ from hg] at h
    simp only [PoolStep, PoolAct.enters, count_concat, StartPc.sends, Bool.toNat_false] at h hu ⊢
    omega
  | enqueue j =>
    obtain ⟨hs, q, hq, -⟩ := hg
    rw [hs, Option.mem_def.1 hq] at h
    simp only [PoolStep, PoolAct.enters, Option.mem_def.1 hq, StartPc.sends, Option.map_some, Option.getD_some, count_concat,
      Bool.toNat_false] at h hu ⊢
    omega
  | evalQueue => exact h
  | receive j =>
    obtain ⟨-, q, hq, hj⟩ := hg
    obtain ⟨q', rfl⟩ := List.head?_eq_some_iff.1 hj
    rw [Option.mem_def.1 hq] at h
    simp only [PoolStep, PoolAct.enters, Option.mem_def.1 hq, Option.map_some, Option.getD_some, List.tail_cons, count_cons,
      countP_concat, Handoff.carries] at h hu ⊢
    omega
  | takeChannel j i =>
    have he := countP_erase (Handoff.carries job) hg.1
    simp only [PoolStep, PoolAct.enters, countP_concat, Handoff.carries] at h he hu ⊢
    omega
  | handJob j i =>
    have he := countP_erase (Handoff.carries job) hg.1
    simp only [PoolStep, PoolAct.enters, Handoff.carries] at h he hu ⊢
    omega
  | offer i =>
    simp only [PoolStep, PoolAct.enters] at h hu ⊢
    omega
  | handleReturns i j =>
    simp only [PoolStep, PoolAct.enters, count_concat] at h hu ⊢
    omega

theorem calls_step (hw : Wired s) (h : ∀ job, s.calls.count job = s.inHandle job + s.finished.count job)
    (hg : PoolGuard cfg s a) (job : Job) :
    (PoolStep s a).calls.count job = (PoolStep s a).inHandle job + (PoolStep s a).finished.count job := by
  have hcalls : (PoolStep s a).calls.count job = s.calls.count job + a.enters job := by
    cases a with
    | handJob j i => exact count_concat _
    | _ => rfl
  rw [handled_step hw hg job, hcalls, h job]

theorem offered_step (hw : Wired s) (h : ∀ i, s.offered i = (s.workers i).waits.toNat)
    (hg : PoolGuard cfg s a) (j : Fin cfg.maxWorker) :
    (PoolStep s a).offered j = ((PoolStep s a).workers j).waits.toNat := by
  specialize h j
  simp only [PoolState.offered] at h ⊢
  cases a with
  | startWorker i =>
    have hi := hw.fresh i hg i le_rfl
    by_cases hij : j = i
    · subst hij
      simpa [PoolStep, hi, WorkerPc.waits] using h
    · simpa [PoolStep, hij] using h
  | receive job => simpa [PoolStep, countP_concat, Handoff.holds] using h
  | takeChannel job i =>
    obtain ⟨hwait, hhead⟩ := hg
    obtain ⟨p, hp⟩ := List.head?_eq_some_iff.1 hhead
    have he := countP_erase (Handoff.holds j) hwait
    rw [hp] at h
    simp only [PoolStep, hp, List.tail_cons, count_cons, countP_concat, Handoff.holds, Bool.toNat_false] at h he ⊢
    omega
  | handJob job i =>
    obtain ⟨hhold, hi⟩ := hg
    have he := countP_erase (Handoff.holds j) hhold
    by_cases hij : j = i
    · subst hij
      rw [hi] at h
      simp only [PoolStep, Handoff.holds, beq_self_eq_true, Function.update_self, WorkerPc.waits, Bool.toNat_true,
        Bool.toNat_false] at h he ⊢
      omega
    · have hne : (i == j) = false := beq_false_of_ne (Ne.symm hij)
      simp only [PoolStep, Handoff.holds, hne, Function.update_of_ne hij, Bool.toNat_false] at h he ⊢
      omega
  | offer i =>
    by_cases hij : j = i
    · subst hij
      rw [hg.1] at h
      simp only [PoolStep, count_concat, beq_self_eq_true, Function.update_self, WorkerPc.waits, Bool.toNat_true,
        Bool.toNat_false] at h ⊢
      omega
    · have hne : (i == j) = false := beq_false_of_ne (Ne.symm hij)
      simp only [PoolStep, count_concat, hne, Function.update_of_ne hij, Bool.toNat_false] at h ⊢
      omega
  | handleReturns i job =>
    by_cases hij : j = i
    · subst hij
      rw [show s.workers j = _ from hg] at h
      simpa [PoolStep, WorkerPc.waits] using h
    · simpa [PoolStep, hij] using h
  | _ => exact h

theorem wired_of_reach {P : PoolState cfg.maxWorker → PoolAct cfg.maxWorker → Prop} (hr : (pool cfg).Reach P s) : Wired s :=
  hr.induct (I := Wired) (Wired.init _) fun _ _ _ h he _ => wired_step h he

theorem placed_of_reachable (hr : (pool cfg).Reachable s) : Placed s :=
  hr.induct (I := Placed) (Placed.init _) fun _ _ hr h he _ =>
    have hw := wired_of_reach hr
    ⟨numbered_step h.numbered, copies_step hw h.copies he, calls_step hw h.calls he, offered_step hw h.offered he⟩

/-- A job is one return of `Accept`. -/
theorem Placed.accepted_nodup (h : Placed s) : s.accepted.Nodup := by
  have hn : (s.accepted.map Job.call).Nodup := h.numbered ▸ List.nodup_range
  exact hn.of_map

/-- A worker that is not waiting has its channel nowhere. -/
theorem Placed.not_offered (h : Placed s) {i : Fin cfg.maxWorker} (hi : (s.workers i).waits = false) :
    i ∉ s.workerPool ∧ ∀ job, .holding job i ∉ s.handoffs := by
  have ho := h.offered i
  rw [hi, PoolState.offered, Bool.toNat_false, Nat.add_eq_zero_iff] at ho
  refine ⟨List.count_eq_zero.1 ho.1, fun job hm => ?_⟩
  have hcarry := List.countP_eq_zero.1 ho.2 _ hm
  simp [Handoff.holds] at hcarry

theorem Placed.workerPool_nodup (h : Placed s) : s.workerPool.Nodup := by
  rw [List.nodup_iff_count_le_one]
  intro i
  have ho := h.offered i
  have hle := Bool.toNat_le (s.workers i).waits
  rw [PoolState.offered] at ho
  omega

/-- What the pool promises in a state. -/
structure HandedOnce (s : PoolState cfg.maxWorker) : Prop where
  /-- A job that `Start` has put on `JobQueue` is in one place. -/
  place : ∀ job ∈ s.accepted, s.start ≠ .send job → s.copies job = 1
  /-- The one that it has not is in none of them. -/
  pending : ∀ job, s.start = .send job → s.copies job = 0
  /-- `handle` is called when a worker gets the job, and never again. -/
  calls : ∀ job, s.calls.count job = s.inHandle job + s.finished.count job
  channel : ∀ i, s.workerPool.count i + s.handoffs.countP (Handoff.holds i) ≤ 1
  owner : ∀ i, i ∈ s.workerPool ∨ (∃ job, .holding job i ∈ s.handoffs) → s.workers i = .waiting
  /-- `WorkerPool` has room for whoever is about to send. -/
  room : ∀ i, s.workers i = .sending → (pool cfg).enabled s (.offer i)

theorem pool_hands_once (hr : (pool cfg).Reachable s) : HandedOnce s := by
  have h := placed_of_reachable hr
  refine ⟨?_, ?_, h.calls, ?_, ?_, ?_⟩
  · intro job hj hs
    have hc := h.copies job
    rw [List.count_eq_one_of_mem h.accepted_nodup hj, StartPc.sends_eq_false hs] at hc
    simpa using hc
  · intro job hs
    have hc := h.copies job
    have hle := List.nodup_iff_count_le_one.1 h.accepted_nodup job
    simp only [hs, StartPc.sends, beq_self_eq_true, Bool.toNat_true] at hc
    omega
  · intro i
    rw [← PoolState.offered, h.offered]
    exact Bool.toNat_le _
  · intro i hi
    by_contra hne
    have hwaits := WorkerPc.waits_eq_false hne
    rcases hi with hm | ⟨job, hm⟩
    · exact (h.not_offered hwaits).1 hm
    · exact (h.not_offered hwaits).2 job hm
  · intro i hi
    refine ⟨hi, ?_⟩
    have hwaits : (s.workers i).waits = false := by
      rw [hi]
      rfl
    have hlt := length_lt_card h.workerPool_nodup (h.not_offered hwaits).1
    rwa [Fintype.card_fin] at hlt

/-- Two workers and a short queue. -/
def twoWorkers : PoolConfig := ⟨2, 1, by decide, by decide⟩

def twoClients : List (PoolAct twoWorkers.maxWorker) :=
  let w : Fin 2 := 1
  [.startWorker (0 : Fin 2), .startWorker w, .offer w, .goDispatch, .makeQueue, .accept true, .enqueue ⟨0, true⟩,
   .evalQueue, .receive ⟨0, true⟩, .takeChannel ⟨0, true⟩ w, .handJob ⟨0, true⟩ w, .accept false, .enqueue ⟨1, false⟩]

/-- The first client is being served, and what a failed `Accept` returned waits in the queue. -/
theorem pool_hands_once_two_workers : ∃ s, (pool twoWorkers).Reachable s ∧ PoolState.inHandle s ⟨0, true⟩ = 1 ∧
    PoolState.inQueue s ⟨1, false⟩ = 1 ∧ HandedOnce s := by
  obtain ⟨s, hr, hh, hq⟩ : ∃ s, (pool twoWorkers).Reachable s ∧ PoolState.inHandle s ⟨0, true⟩ = 1 ∧
      PoolState.inQueue s ⟨1, false⟩ = 1 :=
    ⟨_, Lts.System.replay_reach twoClients .init rfl, rfl, rfl⟩
  exact ⟨s, hr, hh, hq, pool_hands_once hr⟩

/-! ## `dispatch` and the queue it listens on -/

/-- `dispatch` is not blocked for ever, and one or two steps of it receive a queued job. -/
def Listening (cfg : PoolConfig) (s : PoolState cfg.maxWorker) : Prop :=
  s.dispatch ≠ .parked ∧
    ∃ job, (pool cfg).enabled s (.receive job) ∨
      (pool cfg).enabled s .evalQueue ∧ (pool cfg).enabled ((pool cfg).next s .evalQueue) (.receive job)

/-- `dispatch` evaluates `JobQueue` only behind the assignment in `Start`. -/
def EvaluatesLate {n : Nat} (s : PoolState n) : PoolAct n → Prop
  | .evalQueue => s.jobQueue.isSome = true
  | _ => True

instance {n : Nat} (s : PoolState n) : ∀ a, Decidable (EvaluatesLate s a) := by
  intro a
  cases a <;> dsimp only [EvaluatesLate] <;> infer_instance

theorem not_parked_step (h : s.dispatch ≠ .parked) (hp : EvaluatesLate s a) : (PoolStep s a).dispatch ≠ .parked := by
  cases a with
  | goDispatch | receive => nofun
  | evalQueue =>
    have hq : s.jobQueue.isSome = true := hp
    simp [PoolStep, hq]
  | _ => exact h

/-- Nothing wakes it. -/
theorem parked_step (hw : Wired s) (h : s.dispatch = .parked) (hg : PoolGuard cfg s a) :
    (PoolStep s a).dispatch = .parked := by
  cases a with
  | goDispatch =>
    have hn := hw.dispatch.2 (by rw [show s.start = _ from hg]; rfl)
    rw [h] at hn
    cases hn
  | evalQueue => exact absurd (h.symm.trans hg) (by decide)
  | receive => exact absurd (h.symm.trans hg.1) (by decide)
  | _ => exact h

theorem parked_of_early (h : ¬EvaluatesLate s a) : (PoolStep s a).dispatch = .parked := by
  cases a with
  | evalQueue =>
    have hq : ¬s.jobQueue.isSome = true := h
    simp [PoolStep, hq]
  | _ => exact absurd trivial h

theorem not_parked_of_reach (hr : (pool cfg).Reach EvaluatesLate s) : s.dispatch ≠ .parked :=
  hr.induct (I := fun s => s.dispatch ≠ .parked) (by nofun) fun _ _ _ h _ hp => not_parked_step h hp

/-- A state that only early evaluations lead to has `dispatch` parked. -/
theorem late_or_parked (hr : (pool cfg).Reachable s) : (pool cfg).Reach EvaluatesLate s ∨ s.dispatch = .parked := by
  refine hr.induct (I := fun s => (pool cfg).Reach EvaluatesLate s ∨ s.dispatch = .parked) (.inl .init) ?_
  intro s a hr h he _
  rcases h with hl | hp
  · by_cases hlate : EvaluatesLate s a
    · exact .inl (hl.step a he hlate)
    · exact .inr (parked_of_early hlate)
  · exact .inr (parked_step (wired_of_reach hr) hp he)

theorem listening_of_not_parked (hw : Wired s) {q : List Job} (hq : s.jobQueue = some q) (hne : q ≠ [])
    (h : s.dispatch ≠ .parked) : Listening cfg s := by
  obtain ⟨job, q', rfl⟩ := List.exists_cons_of_ne_nil hne
  refine ⟨h, job, ?_⟩
  cases hd : s.dispatch with
  | notStarted =>
    -- with a queue, `Start` is past `Run`
    have hrun := hw.dispatch.1 hd
    have hmade : s.start.queueMade = true := by rw [← hw.queue, hq]; rfl
    cases hs : s.start <;> simp [hs, StartPc.inRun, StartPc.queueMade] at hrun hmade
  | select =>
    refine .inr ⟨hd, ?_, _, hq, rfl⟩
    simp [pool, PoolStep, hq]
  | parked => exact absurd hd h
  | receive => exact .inl ⟨hd, _, hq, rfl⟩

/-- `dispatch` listens on the live queue in every state of a run whose evaluations of `JobQueue` come behind the
assignment, and in no state of another run that has a job in the queue. -/
theorem dispatch_listens (hr : (pool cfg).Reachable s) {q : List Job} (hq : s.jobQueue = some q) (hne : q ≠ []) :
    Listening cfg s ↔ (pool cfg).Reach EvaluatesLate s := by
  constructor
  · intro hl
    exact (late_or_parked hr).resolve_right hl.1
  · intro hlate
    exact listening_of_not_parked (wired_of_reach hlate) hq hne (not_parked_of_reach hlate)

/-- The loop of `Run`, before anything else moves. -/
theorem reach_run (P : PoolState cfg.maxWorker → PoolAct cfg.maxWorker → Prop) (hP : ∀ s i, P s (.startWorker i)) {k : Nat}
    (hk : k ≤ cfg.maxWorker) :
    ∃ f, (pool cfg).Reach P { PoolState.init cfg.maxWorker with start := .run k, workers := f } := by
  induction k with
  | zero => exact ⟨_, .init⟩
  | succ k ih =>
    obtain ⟨f, hf⟩ := ih (by omega)
    have hstep := hf.step (PoolAct.startWorker ⟨k, hk⟩) rfl (hP _ _)
    exact ⟨_, hstep⟩

/-- The first client of a server whose `dispatch` was slow to start. -/
theorem first_client_queued (cfg : PoolConfig) : ∃ s, (pool cfg).Reach EvaluatesLate s ∧ s.jobQueue = some [⟨0, true⟩] := by
  obtain ⟨f, hf⟩ := @reach_run cfg EvaluatesLate (fun _ _ => trivial) _ le_rfl
  have h₁ := hf.step PoolAct.goDispatch rfl trivial
  have h₂ := h₁.step PoolAct.makeQueue rfl trivial
  have h₃ := h₂.step (PoolAct.accept true) rfl trivial
  have h₄ := h₃.step (PoolAct.enqueue ⟨0, true⟩) ⟨rfl, [], rfl, cfg.maxQueue_pos⟩ trivial
  exact ⟨_, h₄, rfl⟩

/-- The first client of a server whose `dispatch` was quick. -/
theorem first_client_stuck (cfg : PoolConfig) :
    ∃ s, (pool cfg).Reachable s ∧ s.jobQueue = some [⟨0, true⟩] ∧ s.dispatch = .parked := by
  obtain ⟨f, hf⟩ := @reach_run cfg (fun _ _ => True) (fun _ _ => trivial) _ le_rfl
  have h₁ := hf.step PoolAct.goDispatch rfl trivial
  have h₂ := h₁.step PoolAct.evalQueue rfl trivial
  have h₃ := h₂.step PoolAct.makeQueue rfl trivial
  have h₄ := h₃.step (PoolAct.accept true) rfl trivial
  have h₅ := h₄.step (PoolAct.enqueue ⟨0, true⟩) ⟨rfl, [], rfl, cfg.maxQueue_pos⟩ trivial
  exact ⟨_, h₅, rfl, rfl⟩

theorem dispatch_listens_first_client : ∃ s q, (pool .source).Reachable s ∧ s.jobQueue = some q ∧ q ≠ [] ∧
    Listening .source s := by
  obtain ⟨s, hr, hq⟩ := first_client_queued .source
  exact ⟨s, _, hr.reachable, hq, by simp, (dispatch_listens hr.reachable hq (by simp)).2 hr⟩

theorem quick_dispatch_not_listening :
    ¬∀ s, (pool .source).Reachable s → ∀ q, s.jobQueue = some q → q ≠ [] → Listening .source s := by
  intro hall
  obtain ⟨s, hr, hq, hp⟩ := first_client_stuck .source
  exact (hall s hr _ hq (by simp)).1 hp

end

end SnakeSocks.Go
