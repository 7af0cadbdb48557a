import SnakeSocks.Lib.Ledger
import SnakeSocks.Go.Accounting

/-!
# One connection of the Go server, from `Accept` to the return of `handle`

| here | there |
| --- | --- |
| `HandlePc` | `handle` (`server.go:73`) with `auth` (`:90`) inlined where it is called |
| `HandleAct.session` | a step of `proxy` or of one of the goroutines it starts |
| `Act.netCalls` | the calls of such a step on `c.c` and `c.dst`, and `net.Dial` |
| `connChange` | what these calls do to the open connections of the process |

The packet, the module's answer and the outcome of every `Read`, `Write` and `Dial` are free. `handle` does not look at
the error of the `WriteB` in `auth`. The reader inside `dealr2s` is not in the `WaitGroup`, so the session may still take
steps after `handle` has returned. The garbage collector may close a connection nobody refers to any more; that is no
call of this program.
-/

namespace SnakeSocks.Go

open ByteLib Ledger

/-! ## Calls -/

/-- `c.c` and `c.dst`. -/
inductive Conn where
  | client
  | remote
deriving DecidableEq

inductive NetCall where
  | accept
  | remoteAddr (c : Conn)
  | read (c : Conn)
  | write (c : Conn) (bs : Bytes)
  | dial (addr : Vector UInt8 16 × UInt16) (ok : Bool)
  | close (c : Conn)

def connChange : NetCall → Change Conn
  | .accept => .opens .client
  | .dial _ true => .opens .remote
  | .close c => .closes c
  | _ => .keeps

/-- The network calls of a session's step; `ReadB` and the two halves of `WriteB` are on `c.c`. -/
def Act.netCalls : Act → List NetCall
  | .firstRead _ | .firstReadErr | .c2sRead _ | .c2sReadErr => [.read .client]
  | .dnsHeader body _ | .dnsHeaderErr body _ _ | .s2cHeader body | .s2cHeaderErr body _ => [.write .client (frameHeader body)]
  | .dnsBody body _ | .dnsBodyErr body _ _ | .s2cBody body | .s2cBodyErr body _ => [.write .client body]
  | .firstDial q | .c2sDial q => [.dial (dialAddr q) true]
  | .firstDialErr q | .c2sDialErr q => [.dial (dialAddr q) false]
  | .s2rWrite d | .s2rWriteErr d _ => [.write .remote d]
  | .readerRead _ | .readerReadErr => [.read .remote]
  | _ => []

/-! ## States and steps -/

/-- `entry` holds whether `c` is not `nil`; `Start` queues what `Accept` returned also when it failed. -/
inductive HandlePc where
  | entry (accepted : Bool)
  | remoteAddr
  | authRead
  | makeAuthReply (packet : Bytes)
  | replyHeader (reply : Bytes) (isClose : Bool)
  | replyBody (reply : Bytes) (isClose : Bool)
  | verdict (isClose : Bool)
  | proxy
  | returned
deriving DecidableEq

structure Handling where
  pc : HandlePc
  /-- The session, once `proxy` is entered. -/
  cli : Option State
  calls : List NetCall

inductive HandleAct where
  | returnNil
  | start
  | remoteAddr (ip : Option (Vector UInt8 16))
  | authRead (packet : Bytes)
  | authReadErr
  | makeAuthReply (packet reply : Bytes) (isClose : Bool)
  | replyHeader (reply : Bytes) (isClose : Bool)
  | replyHeaderErr (reply : Bytes) (isClose : Bool)
  | replyBody (reply : Bytes) (isClose : Bool)
  | refuse
  | enterProxy
  | session (a : Act)
  | leaveProxy

def HandleGuard (M : Codec) (h : Handling) : HandleAct → Prop
  | .returnNil => h.pc = .entry false
  | .start => h.pc = .entry true
  | .remoteAddr _ => h.pc = .remoteAddr
  | .authRead _ | .authReadErr => h.pc = .authRead
  | .makeAuthReply packet _ _ => h.pc = .makeAuthReply packet
  | .replyHeader reply isClose | .replyHeaderErr reply isClose => h.pc = .replyHeader reply isClose
  | .replyBody reply isClose => h.pc = .replyBody reply isClose
  | .refuse => h.pc = .verdict true
  | .enterProxy => h.pc = .verdict false
  | .session a => ∃ s ∈ h.cli, (session M).enabled s a
  | .leaveProxy => h.pc = .proxy ∧ ∃ s ∈ h.cli, s.proxy = .done

instance (M : Codec) (h : Handling) : ∀ a, Decidable (HandleGuard M h a) := by
  intro a
  cases a <;> dsimp only [HandleGuard] <;> infer_instance

def HandleStep (M : Codec) (h : Handling) : HandleAct → Handling
  | .returnNil => { h with pc := .returned }
  | .start => { h with pc := .remoteAddr }
  | .remoteAddr none => { h with pc := .returned, calls := h.calls ++ [.remoteAddr .client] }
  | .remoteAddr (some _) => { h with pc := .authRead, calls := h.calls ++ [.remoteAddr .client] }
  | .authRead packet => { h with pc := .makeAuthReply packet, calls := h.calls ++ [.read .client] }
  | .authReadErr => { h with pc := .returned, calls := h.calls ++ [.read .client] }
  | .makeAuthReply _ reply isClose => { h with pc := .replyHeader reply isClose }
  | .replyHeader reply isClose =>
    { h with pc := .replyBody reply isClose, calls := h.calls ++ [.write .client (frameHeader reply)] }
  | .replyHeaderErr reply isClose =>
    { h with pc := .verdict isClose, calls := h.calls ++ [.write .client (frameHeader reply)] }
  | .replyBody reply isClose => { h with pc := .verdict isClose, calls := h.calls ++ [.write .client reply] }
  | .refuse => { h with pc := .returned }
  | .enterProxy => { h with pc := .proxy, cli := some .init }
  | .session a => { h with cli := h.cli.map fun s => Step M s a, calls := h.calls ++ a.netCalls }
  | .leaveProxy => { h with pc := .returned }

/-- `proxy` has not been called, and may be. -/
def HandlePc.authenticating : HandlePc → Bool
  | .proxy | .returned => false
  | _ => true

/-- `handle(c)`, for an accepted connection or for the `nil` of a failed `Accept`. -/
def handling (M : Codec) (accepted : Bool) : Lts.System Handling HandleAct where
  init := ⟨.entry accepted, none, if accepted then [.accept] else []⟩
  enabled := HandleGuard M
  next := HandleStep M

instance (M : Codec) (accepted : Bool) (h : Handling) (a : HandleAct) : Decidable ((handling M accepted).enabled h a) :=
  inferInstanceAs (Decidable (HandleGuard M h a))

/-! ## What is open -/

/-- `c.dst`, as a connection. -/
def remoteOf (dst : Option (Vector UInt8 16 × UInt16)) : List Conn := (dst.map fun _ => Conn.remote).toList

/-- The connections of the session: the accepted one, and the destination once it is dialled. -/
def Handling.conns (h : Handling) : List Conn := remoteOf (h.cli.bind State.dst) ++ [.client]

section
variable {M : Codec} {s : State} {a : Act} {h : Handling} {accepted : Bool}

/-- Only `dial` changes the table, and it is called while `c.dst` is `nil`. -/
theorem openAfter_netCalls (hl : Launched s) (hg : Guard s a) (held : List Conn) :
    openAfter connChange (remoteOf s.dst ++ held) a.netCalls = some (remoteOf (Step M s a).dst ++ held) := by
  cases a with
  | firstDial q =>
    have hd : s.dst = none := hl.early (by rw [(hg : s.proxy = _), ProxyPc.beforeDial])
    rw [hd]
    rfl
  | c2sDial q =>
    have hd : s.dst = none := hl.late (by rw [(hg : s.c2s = _), C2sPc.dialling])
    rw [hd]
    rfl
  | _ => rfl

/-- The session inside `handle` is a run of the session. -/
theorem cli_reachable (hr : (handling M accepted).Reachable h) : ∀ s ∈ h.cli, (session M).Reachable s := by
  refine hr.induct (I := fun h => ∀ s ∈ h.cli, (session M).Reachable s) (by simp [handling]) ?_
  intro h a _ ih he _ s hs
  cases a with
  | enterProxy =>
    cases hs
    exact .init
  | session a =>
    obtain ⟨s₀, hs₀, he⟩ := he
    obtain ⟨s₁, hs₁, rfl⟩ := Option.map_eq_some_iff.1 hs
    cases hs₀.symm.trans hs₁
    exact (ih s₀ hs₀).step a he trivial
  | remoteAddr ip => cases ip <;> exact ih s hs
  | _ => exact ih s hs

theorem cli_none (hr : (handling M accepted).Reachable h) : h.pc.authenticating = true → h.cli = none := by
  refine hr.induct (I := fun h => h.pc.authenticating = true → h.cli = none) (fun _ => rfl) ?_
  intro h a _ ih he _ ha
  cases a with
  | session a =>
    obtain ⟨s, hs, -⟩ := he
    rw [ih ha] at hs
    cases hs
  | enterProxy => cases ha
  | remoteAddr ip =>
    have hpc : h.pc = .remoteAddr := he
    cases ip <;> exact ih (by rw [hpc]; rfl)
  | returnNil | authReadErr | refuse | leaveProxy => cases ha
  | start | authRead | makeAuthReply | replyHeader | replyHeaderErr | replyBody =>
    exact ih (by rw [show h.pc = _ from he]; rfl)

/-- Through every interleaving, what is open is the accepted connection and the destination that was dialled. -/
theorem openAfter_calls (hr : (handling M true).Reachable h) : openAfter connChange [] h.calls = some h.conns := by
  refine hr.induct (I := fun h => openAfter connChange [] h.calls = some h.conns) rfl ?_
  intro h a hreach ih he _
  cases a with
  | session a =>
    obtain ⟨s, hs, he⟩ := he
    have hl := (control_of_reach (cli_reachable hreach s hs)).launched
    have hcli : h.cli = some s := hs
    simp only [handling, HandleStep, Handling.conns, hcli, Option.map_some, Option.bind_some] at ih ⊢
    rw [openAfter_append ih]
    exact openAfter_netCalls hl he.2 [.client]
  | enterProxy =>
    have hnone : h.cli = none := cli_none hreach (by rw [show h.pc = _ from he]; rfl)
    rw [Handling.conns, hnone] at ih
    exact ih
  | remoteAddr ip => cases ip <;> exact (openAfter_append ih).trans rfl
  | authRead | authReadErr | replyHeader | replyHeaderErr | replyBody => exact (openAfter_append ih).trans rfl
  | returnNil | start | makeAuthReply | refuse | leaveProxy => exact ih

/-- An authentication, with the module's verdict. -/
def authClient (isClose : Bool) : List HandleAct :=
  [.start, .remoteAddr (some (Vector.replicate 16 0)), .authRead [7], .makeAuthReply [7] [1] isClose,
   .replyHeader [1] isClose, .replyBody [1] isClose]

/-- Every session is the session of some `handle`. -/
theorem exists_handling (hr : (session M).Reachable s) :
    ∃ h, (handling M true).Reachable h ∧ h.pc = .proxy ∧ h.cli = some s := by
  refine hr.induct (I := fun s => ∃ h, (handling M true).Reachable h ∧ h.pc = .proxy ∧ h.cli = some s) ?_ ?_
  · exact ⟨_, Lts.System.replay_reach (authClient false ++ [.enterProxy]) .init rfl, rfl, rfl⟩
  · rintro s a - ⟨h, hh, hpc, hs⟩ he -
    refine ⟨_, hh.step (HandleAct.session a) ⟨s, hs, he⟩ trivial, hpc, ?_⟩
    show h.cli.map _ = _
    rw [hs]
    rfl

/-- What is promised when `handle` has returned: the client's connection is closed, and so is a destination that was
dialled. -/
structure Released (h : Handling) : Prop where
  client : ¬IsOpen connChange [] h.calls .client
  dst : (∃ addr, .dial addr true ∈ h.calls) → ¬IsOpen connChange [] h.calls .remote

/-- No run of `handle` on an accepted connection keeps the promise, whichever way it ends and whatever the goroutines
do: nothing in the program closes a connection. -/
theorem handle_never_releases (hr : (handling M true).Reachable h) (_ : h.pc = .returned) : ¬Released h := by
  intro hrel
  have hopen := openAfter_calls hr
  exact hrel.client ⟨h.conns, hopen, by simp [Handling.conns]⟩

end

/-- The client of a whole session, which ends on both sides. -/
theorem handle_never_releases_quick_client : ∃ h, (handling plainCodec true).Reachable h ∧ h.pc = .returned ∧
    (∃ s ∈ h.cli, s.AllDone) ∧ ¬Released h := by
  obtain ⟨s, hr, hd⟩ : ∃ s, (session plainCodec).Reachable s ∧ s.proxy = .done :=
    ⟨_, Lts.System.replay_reach (quickClient ++ .wgAdd1 :: quickEnd ++ [.wgWait, .connClose]) .init rfl, rfl⟩
  obtain ⟨h, hh, hpc, hs⟩ := exists_handling hr
  have hret : (handling plainCodec true).Reachable (HandleStep plainCodec h .leaveProxy) :=
    hh.step HandleAct.leaveProxy ⟨hpc, s, hs, hd⟩ trivial
  exact ⟨_, hret, rfl, ⟨s, hs, closing_of_reach hr (.inr hd)⟩, handle_never_releases hret rfl⟩

/-- A client that is refused is not even hung up on. -/
theorem refused_client_stays_open :
    ¬∀ (M : Codec) (h : Handling), (handling M true).Reachable h → h.pc = .returned → Released h := by
  intro hall
  obtain ⟨h, hr, hret, hc⟩ : ∃ h, (handling plainCodec true).Reachable h ∧ h.pc = .returned ∧
      openAfter connChange [] h.calls = some [.client] :=
    ⟨_, Lts.System.replay_reach (authClient true ++ [.refuse]) .init rfl, rfl, rfl⟩
  exact (hall plainCodec h hr hret).client ⟨[.client], hc, by simp⟩

end SnakeSocks.Go
