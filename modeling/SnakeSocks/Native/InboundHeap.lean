import SnakeSocks.Native.Agreement
import SnakeSocks.Native.Inbound

/-!
# The heap of `sksrv`

| here | there |
| --- | --- |
| `dealConnection`, `dealConnectionImpl`, `doAuth` | `inbound_tunnel` (`tunnel.cc:154-270`), with every `malloc` and `free` |
| `recvLengthAndPacket` | `NetLib::recv_length_and_packet` (`NetLib.hpp:39`) |
| `makeBinarySafeString` | `make_binary_safe_string` (`module-port.hpp:21`) |
| `quickRecvall` | `rlib::sockIO::quick_recvall` (`sio.hpp:619`), whose `recvall` never gets to its `realloc` |

The same session as in `Native/Inbound.lean`, from the side of the memory. What does not touch it is taken from there.
-/

namespace SnakeSocks.InboundHeap

open ByteLib CMem Effects Ledger Owned Heap
open Inbound (Conn)
open NetLib (maxPacket refuseRecv)
open Tunnel (isDnsQuery dnsResponse chunkQuery)

/-! ## The code -/

section
variable (env : Env Outcome) (M : ServerModule (Option Nat))

/-- "Warning: should free the return pointer"; a `recvn` that throws does not free it either. -/
def recvLengthAndPacket (connfd : Nat) : Prog (Option Nat) (Ptr × BinarySafeString) := do
  let n ← lift env fun env => Native.recvnEx env connfd 4
  if beNat n > maxPacket then raise refuseRecv else
  let data ← perform env (.malloc (beNat n))
  match ← perform env (.recvInto .packet data connfd (beNat n)) with
  | none => raise "recvn failed."
  | some bs => return (data, .ofBlock bs.1)

def makeBinarySafeString (length : Nat) : Prog (Option Nat) Ptr := do
  match ← perform env (.malloc length) with
  | none => raise "Unable to malloc bss.str."
  | some b => return some b

/-- `recvall` forgets its buffer on an error. -/
def quickRecvall (fd : Nat) : Prog (Option Nat) Bytes := do
  let ptr ← perform env (.malloc 1024)
  match ← perform env (.readInto ptr fd) with
  | none => raise "recvall failed."
  | some result =>
    let _ ← perform env (.free ptr)
    return result.1

def sendLengthAndPacket (connfd : Nat) (dat : BinarySafeString) : Prog (Option Nat) Unit :=
  lift env fun env => Inbound.sendLengthAndPacket env connfd dat

def doAuth (connfd : Nat) : Prog (Option Nat) Bool := do
  let (dataptr, authMsg) ← recvLengthAndPacket env connfd
  let (str, authReplyMsg, authFailed) ← M.makeAuthReply dataptr authMsg
  deferring (perform env (.free str)) do
    sendLengthAndPacket env connfd authReplyMsg
    return !authFailed

def resolveDomain (thisQuery : ClientQuery) : Prog (Option Nat) Tunnel.IpAddress :=
  lift env fun env => do
    let domain ← Inbound.domainOf thisQuery
    Native.orThrow "BOOST Failed to resolve address" (← perform env (.resolveDomainOnce domain))

def answerDns (c : Conn) (thisQuery : ClientQuery) : Prog (Option Nat) Unit := do
  let nextHopIp ← resolveDomain env thisQuery
  let (str, encoded) ← M.encode none (dnsResponse thisQuery nextHopIp)
  deferring (perform env (.free str)) (sendLengthAndPacket env c.connfd encoded)

/-- `thisQuery.payload.str` is not freed. -/
def connReadable (c : Conn) : Prog (Option Nat) Unit := do
  let (dataptr, data) ← recvLengthAndPacket env c.connfd
  let (_, thisQuery) ← M.decode dataptr data
  if isDnsQuery thisQuery then answerDns env M c thisQuery
  else lift env fun env => Inbound.passOn env thisQuery

/-- `encodedData.str` is not freed. -/
def nextHopReadable (c : Conn) (nextHopConn : Nat) : Prog (Option Nat) Bool := do
  match ← quickRecvall env nextHopConn with
  | [] => return false
  | b :: bs =>
    let str ← makeBinarySafeString env (b :: bs).length
    let (_, encodedData) ← M.encode str (chunkQuery c.bindPort (b :: bs))
    sendLengthAndPacket env c.connfd encodedData
    return true

def exchange (c : Conn) : Nat → Prog (Option Nat) Unit
  | 0 => lose (.native .running)
  | fuel + 1 => do
    let inSet ← getStore
    match ← perform env (.other (.select (c.connfd :: inSet.inner.toList))) with
    | none => raise "Select failed"
    | some (conn, hop) =>
      let _ ← (if conn then connReadable env M c else pure ())
      let up ← (match hop, inSet.inner with
        | true, some nextHopConn => nextHopReadable env M c nextHopConn
        | _, _ => pure true)
      if up then exchange c fuel else return ()

/-- The first scope guard. -/
def onCloseConn : Prog (Option Nat) Unit := do
  let _ ← perform env (.other .serverClose)
  M.connectionClose

/-- The passphrase in `myConnInfo` is a copy of its own, and is not freed. -/
def dealConnectionImpl (c : Conn) (passphrase : Bytes) (fuel : Nat) : Prog (Option Nat) Unit := do
  let _ ← makeBinarySafeString env passphrase.length
  if ← doAuth env M c.connfd then
    deferring (onCloseConn env M) (deferring (lift env Inbound.closeNextHop) (exchange env M c fuel))
  else lift env fun env => Inbound.refuse env c

def dealConnection (c : Conn) (passphrase : Bytes) (fuel : Nat) : Prog (Option Nat) Unit := do
  catching (fun _ => pure ()) (dealConnectionImpl env M c passphrase fuel)
  perform env (.other (.close c.connfd))

end

/-! ## What the session does not free -/

/-- Blocks a call leaves to nobody: the payload of a decoded packet, the packet of an encoded chunk, a buffer that could not
be filled, and what the module leaves of its own. -/
def forgotten : Event → Nat
  | ⟨.decoded _, query⟩ => if query.payload.length ≠ 0 then 1 else 0
  | ⟨.encoded cq, _⟩ => if cq.payload.str.isSome then 1 else 0
  | ⟨.recvInto _ (some _) _ _, none⟩ => 1
  | ⟨.readInto (some _) _, none⟩ => 1
  | e => scratch e

def isServerClose : Event → Bool
  | ⟨.other .serverClose, _⟩ => true
  | _ => false

def Unclosed (e : Event) : Prop := isServerClose e = false

section
variable {α : Type} {env : Env Outcome} {M : ServerModule (Option Nat)} {own : Ptr → Prop}
  {w : World Outcome (Store (Option Nat))}

theorem working_silent {e : Native.Event} (h : Inbound.Working e) : Unclosed (embed e) ∧ forgotten (embed e) = 0 := by
  obtain ⟨call, r⟩ := e
  refine ⟨?_, rfl⟩
  cases call <;> first | rfl | cases h

theorem quiet_silent {e : Native.Event} (h : Native.Quiet e) : Unclosed (embed e) ∧ forgotten (embed e) = 0 :=
  working_silent (Inbound.Quiet.working h)

/-- A packet comes with its block; an exception leaves a block that could not be filled. -/
theorem recvLengthAndPacket_runs (connfd : Nat) : Runs (recvLengthAndPacket env connfd) w []
    (Brings forgotten Unclosed (fun v => v.1.toList) w.store.additionalInfo) := by
  refine lift_bind (fun env' => (Native.steady_recvnEx connfd 4).only) (fun _ => quiet_silent) (fun n w₁ m s₁ hm hz => ?_)
    (fun e s m hs hm hz => ⟨hs, hm, by rw [hz]; rfl⟩) (fun _ _ _ _ => trivial)
  split
  · exact spends_raise ⟨s₁, by rwa [marks, List.filter_nil, List.append_nil], by rw [total_append, hz]; rfl⟩
  · refine runs_malloc_bind fun p w₂ s₂ => ?_
    refine runs_mark_bind (fun _ => rfl) fun r w₃ s₃ => ?_
    have hs : w₃.store.additionalInfo = w.store.additionalInfo := by rw [s₃, s₂, s₁]
    have hcalls : ∀ e ∈ m ++ [⟨.recvInto .packet p connfd (beNat n), r⟩], Unclosed e := by
      intro e he
      rcases List.mem_append.1 he with he | he
      · exact hm e he
      · rw [List.mem_singleton.1 he]
        rfl
    cases r with
    | none =>
      refine spends_raise ⟨hs, hcalls, ?_⟩
      rw [total_append, hz, List.append_nil]
      cases p <;> rfl
    | some bs =>
      refine runs_pure ⟨hs, hcalls, ?_, List.append_nil _⟩
      rw [total_append, hz]
      cases p <;> rfl

theorem only_working {x : Native.Session (Option Nat) α} (hx : Inbound.Relaying x) : Only Inbound.Working x := by
  intro w
  refine (hx w).imp fun r s u h => ?_
  cases h with
  | kept hk => exact hk.working
  | left hl => exact hl.working

theorem leaves_sendLengthAndPacket (connfd : Nat) (dat : BinarySafeString) :
    Leaves forgotten Unclosed (sendLengthAndPacket env connfd dat) :=
  leaves_lift (fun _ => (Inbound.steady_sendLengthAndPacket connfd dat).only) fun _ => quiet_silent

/-- The buffer is freed when it was filled. -/
theorem leaves_quickRecvall (fd : Nat) : Leaves forgotten Unclosed (quickRecvall env fd) := by
  intro w
  refine runs_malloc_bind fun p w₁ s₁ => ?_
  refine runs_mark_bind (fun _ => rfl) fun r w₂ s₂ => ?_
  have hs : w₂.store.additionalInfo = w.store.additionalInfo := by rw [s₂, s₁]
  have hcalls : ∀ e ∈ [(⟨.readInto p fd, r⟩ : Event)], Unclosed e :=
    List.forall_mem_singleton.2 rfl
  cases r with
  | none =>
    refine spends_raise fun _ => ⟨hs, hcalls, ?_⟩
    rw [List.append_nil]
    cases p <;> rfl
  | some bs =>
    refine runs_free_bind (.refl _) fun w₃ s₃ => runs_pure fun _ => ⟨by rw [s₃, hs], hcalls, ?_⟩
    cases p <;> rfl

theorem leaves_resolveDomain (thisQuery : ClientQuery) : Leaves forgotten Unclosed (resolveDomain env thisQuery) := by
  refine leaves_lift (fun env' => Steady.only ?_) fun _ => quiet_silent
  have hdomain : Steady Native.Quiet (Inbound.domainOf thisQuery : Native.Session (Option Nat) Bytes) := by
    unfold Inbound.domainOf
    split
    · exact steady_pure _
    · exact steady_lose _
  refine hdomain.bind fun domain => ?_
  exact (steady_perform fun r => trivial).bind fun r => Native.steady_orThrow _ _

/-- The answer has no payload, and is freed. -/
theorem leaves_answerDns (hM : ServerAgreement own M) (c : Conn) (thisQuery : ClientQuery) :
    Leaves forgotten Unclosed (answerDns env M c thisQuery) := by
  refine (leaves_resolveDomain thisQuery).bind fun nextHopIp w => ?_
  refine hM.encode.bind none (fun str dat w₁ s₁ => ?_) fun _ _ _ _ => False.elim
  have hzero : forgotten ⟨.encoded (dnsResponse thisQuery nextHopIp), dat⟩ = 0 := by cases nextHopIp <;> rfl
  refine Spends.imp ((leaves_sendLengthAndPacket c.connfd dat).freeing (p := some str) (a := [])) fun r s u b h hr => ?_
  obtain ⟨b, rfl, hb⟩ := h hr
  refine Leftover.cons rfl ?_
  rw [hzero, ← s₁]
  exact hb.frame rfl

/-- A chunk leaves its packet behind. -/
theorem leaves_nextHopReadable (hM : ServerAgreement own M) (c : Conn) (nextHopConn : Nat) :
    Leaves forgotten Unclosed (nextHopReadable env M c nextHopConn) := by
  refine (leaves_quickRecvall nextHopConn).bind fun chunk => ?_
  cases chunk with
  | nil => exact leaves_pure _
  | cons b bs =>
    intro w
    show Runs ((perform env (.malloc (b :: bs).length) >>= _) >>= _) w [] _
    rw [bind_assoc]
    refine runs_malloc_bind fun p w₁ s₁ => ?_
    cases p with
    | none => exact spends_raise fun _ => leftover_nil (by rw [s₁]) rfl
    | some str =>
      refine hM.encode.bind (some str) (fun enc dat w₂ s₂ => ?_) fun _ _ _ _ => False.elim
      have hsend : Leaves forgotten Unclosed (sendLengthAndPacket env c.connfd dat >>= fun _ => pure true) :=
        (leaves_sendLengthAndPacket c.connfd dat).bind fun _ => leaves_pure true
      refine Spends.imp (hsend.runs (w := w₂) (a := [enc]) rfl) fun r s u b h hr => Leftover.cons rfl ?_
      rw [← s₁, ← s₂]
      exact h hr

/-- A packet leaves its payload behind. -/
theorem leaves_connReadable (hM : ServerAgreement own M) (c : Conn) :
    Leaves forgotten Unclosed (connReadable env M c) := by
  intro w
  refine (recvLengthAndPacket_runs c.connfd).brings_bind fun v w₁ s₁ => ?_
  refine hM.decode.bind (fun payload query w₂ s₂ hp => ?_) fun _ _ _ _ => False.elim
  have hrest : Leaves forgotten Unclosed (if isDnsQuery query then answerDns env M c query
      else lift env fun env => Inbound.passOn env query) := by
    split
    · exact leaves_answerDns hM c query
    · refine leaves_lift (fun _ => only_working ?_) fun _ => working_silent
      exact (Inbound.relaying_nextHop query).bind fun fd => .of_steady (Native.steady_sendnEx fd _)
  have hcount : payload.toList.length = forgotten ⟨.decoded v.2, query⟩ := by
    show _ = if query.payload.length ≠ 0 then 1 else 0
    cases payload with
    | none =>
      rw [if_neg fun h => Bool.false_ne_true (hp.2 h)]
      rfl
    | some p =>
      rw [if_pos (hp.1 rfl)]
      rfl
  refine Spends.imp (hrest.runs (w := w₂) hcount) fun r s u b h hr => Leftover.cons rfl ?_
  rw [Nat.zero_add, ← s₁, ← s₂]
  exact h hr

/-- Every round, and so the loop. -/
theorem leaves_exchange (hM : ServerAgreement own M) (c : Conn) (fuel : Nat) :
    Leaves forgotten Unclosed (exchange env M c fuel) := by
  induction fuel with
  | zero => exact leaves_lose _
  | succ fuel ih =>
    refine leaves_getStore.bind fun inSet => ?_
    refine (leaves_mark (c := .other (.select _)) (fun _ => rfl) (fun _ => rfl) fun _ => rfl).bind fun r => ?_
    rcases r with _ | ⟨conn, hop⟩
    · exact leaves_raise _
    · have hconn : Leaves forgotten Unclosed (if conn then connReadable env M c else pure ()) := by
        split
        · exact leaves_connReadable hM c
        · exact leaves_pure _
      refine hconn.bind fun _ => Leaves.bind ?_ fun up => ?_
      · split
        · exact leaves_nextHopReadable hM c _
        · exact leaves_pure _
      · cases up with
        | false => exact leaves_pure _
        | true => exact ih

theorem doAuth_runs (hM : ServerAgreement own M) (hown : own none) (hw : w.store.additionalInfo = none) (connfd : Nat) :
    Runs (doAuth env M connfd) w [] (Handed forgotten Unclosed own) := by
  refine (recvLengthAndPacket_runs connfd).bind ?_ ?_
  · rintro ⟨dataptr, authMsg⟩ w₁ m₁ b ⟨hs, hm₁, hz, rfl⟩
    refine (hM.makeAuthReply dataptr authMsg w₁ (hs.trans hw)).bind ?_ ?_
    · rintro ⟨str, reply, authFailed⟩ w₂ m₂ b ⟨-, hown₂, hm₂, junk, hb, hj⟩
      have hauth : ∀ e ∈ m₂, Unclosed e ∧ forgotten e = scratch e := by
        intro e he
        obtain ⟨q, r, rfl⟩ | ⟨q, r, rfl⟩ := hm₂ e he
        · exact ⟨rfl, rfl⟩
        · exact ⟨rfl, rfl⟩
      have hj' : junk.length = total forgotten m₂ := by
        rw [hj, total, List.map_congr_left fun e he => ((hauth e he).2).symm]
      have hsend : Leaves forgotten Unclosed (sendLengthAndPacket env connfd reply >>= fun _ => pure !authFailed) :=
        (leaves_sendLengthAndPacket connfd reply).bind fun _ => leaves_pure _
      refine Spends.perm (Spends.imp hsend.freeing fun r s u c h hr => ?_) hb.symm
      obtain ⟨b', rfl, hl⟩ := h hr
      refine ⟨by rwa [hl.info], ?_, b' ++ junk, ?_, ?_⟩
      · exact List.forall_mem_append.2 ⟨hm₁, List.forall_mem_append.2 ⟨fun e he => (hauth e he).1, hl.calls⟩⟩
      · rw [hl.info, ← List.append_assoc, ← List.append_assoc]
        exact List.perm_append_comm.append_right junk
      · rw [List.length_append, hl.count, hj', total_append, total_append, hz]
        omega
    · intro e s m b h
      cases e with
      | raised e => cases h
      | lost l => exact False.elim
  · intro e s m b h
    cases e with
    | raised e =>
      rw [hw] at h
      exact Leftover.handed h hown
    | lost l => exact False.elim

/-- The module's closing call releases `additional_info`; without it that stays too. -/
def Outlived (r : Except (Halt String Lost) α) (s : Store (Option Nat)) (m : List Event) (b : List Block) : Prop :=
  Settled r → b.length = total forgotten m + if m.any isServerClose then 0 else s.additionalInfo.toList.length

theorem any_isServerClose {m : List Event} (h : ∀ e ∈ m, Unclosed e) : m.any isServerClose = false :=
  List.any_eq_false.2 fun e he => by rw [h e he]; exact Bool.false_ne_true

/-- The cleanup of an accepted client, from what its session leaves. -/
theorem onCloseConn_runs (hM : ServerAgreement own M) (hown : own w.store.additionalInfo) {a junk : List Block}
    (ha : a.Perm (w.store.additionalInfo.toList ++ junk)) :
    Runs (onCloseConn env M) w a fun r _ m b => r = .ok () ∧ m = [⟨.other .serverClose, ()⟩] ∧ b = junk := by
  refine runs_mark_bind (fun _ => rfl) fun _ w₁ s₁ => ?_
  refine Spends.imp (hM.connectionClose.runs (by rwa [s₁]) (by rwa [s₁])) fun r s u b h => ?_
  obtain ⟨-, hr, hm, rfl⟩ := h
  exact ⟨hr, by rw [hm], rfl⟩

theorem exchange_runs (hM : ServerAgreement own M) (hown : own w.store.additionalInfo) (c : Conn) (fuel : Nat)
    {a junk : List Block} (ha : a.Perm (w.store.additionalInfo.toList ++ junk)) :
    Runs (deferring (onCloseConn env M) (deferring (lift env Inbound.closeNextHop) (exchange env M c fuel))) w a
      fun r _ m b => Settled r → m.any isServerClose = true ∧ b.length = junk.length + total forgotten m := by
  have hclose : Leaves forgotten Unclosed (lift env Inbound.closeNextHop) := by
    refine leaves_lift (p := Inbound.Working) (fun env' => ?_) fun _ => working_silent
    refine only_getStore.bind fun st => ?_
    cases st with
    | none => exact only_pure _
    | some fd => exact only_perform fun _ => trivial
  refine Spends.guarded (((hclose.deferring (leaves_exchange hM c fuel)) w).frame a) ?_ fun l s u b _ => False.elim
  rintro r w' u _ hr ⟨b, rfl, hb⟩
  have h : Leftover forgotten Unclosed w.store.additionalInfo 0 w'.store (marks u) b := by
    match r, hr with
    | .ok _, _ => exact hb trivial
    | .error (.raised _), _ => exact hb trivial
    | .error (.lost l), hr => exact absurd rfl (hr l)
  -- the cleanup starts with what the exchange has left behind `additional_info`
  have hperm : (b ++ a).Perm (w'.store.additionalInfo.toList ++ (b ++ junk)) := by
    rw [h.info]
    refine (ha.append_left b).trans ?_
    rw [← List.append_assoc, ← List.append_assoc]
    exact List.perm_append_comm.append_right junk
  refine Spends.imp (onCloseConn_runs hM (by rwa [h.info]) hperm) fun rc s u' b' hb' => ?_
  obtain ⟨hrc, hm, rfl⟩ := hb'
  refine ⟨hrc, fun _ => ?_⟩
  rw [marks_append, hm]
  refine ⟨by rw [List.any_append, List.any_cons]; exact Bool.or_true _, ?_⟩
  rw [List.length_append, h.count, total_append]
  show _ = junk.length + (total forgotten (marks u) + 0)
  omega

/-- The session behind the copy of the passphrase. -/
theorem impl_runs (hM : ServerAgreement own M) (hown : own none) (hw : w.store.additionalInfo = none) (c : Conn)
    (fuel : Nat) :
    Runs (do
      if ← doAuth env M c.connfd then
        deferring (onCloseConn env M) (deferring (lift env Inbound.closeNextHop) (exchange env M c fuel))
      else lift env fun env => Inbound.refuse env c) w [] Outlived := by
  refine (doAuth_runs hM hown hw c.connfd).bind (fun ok w₁ m b h => ?_) (fun e s m b h => ?_)
  · obtain ⟨hown₁, hm, junk, hb, hj⟩ := h trivial
    cases ok with
    | true =>
      refine Spends.imp (exchange_runs hM hown₁ c fuel hb) fun r s u b' hb' hr => ?_
      obtain ⟨hany, hlen⟩ := hb' hr
      rw [List.any_append, hany, Bool.or_true, if_pos rfl, hlen, hj, total_append]
      rfl
    | false =>
      have hrefuse : Leaves forgotten Unclosed (lift env fun env => Inbound.refuse env c) := by
        refine leaves_lift (p := Native.Quiet) (fun env' => Steady.only ?_) fun _ => quiet_silent
        refine (steady_perform fun _ => trivial).bind fun r => ?_
        exact (Native.steady_orThrow _ _).bind fun _ => steady_raise _
      refine Spends.imp (hrefuse.runs rfl) fun r s u b' hb' hr => ?_
      obtain ⟨hs, hm', hlen⟩ := hb' hr
      rw [any_isServerClose (List.forall_mem_append.2 ⟨hm, hm'⟩), hlen, hb.length_eq, total_append, hs,
        List.length_append, hj]
      simp only [Bool.false_eq_true, if_false]
      omega
  · intro hr
    obtain ⟨-, hm, junk, hb, hj⟩ := h (by cases e <;> trivial)
    rw [any_isServerClose hm, hb.length_eq, List.length_append, hj]
    simp only [Bool.false_eq_true, if_false]
    omega

theorem forgotten_of_not_isMark (e : Event) (h : isMark e = false) : forgotten e = 0 := by
  obtain ⟨call, r⟩ := e
  cases call <;> first | rfl | cases h

theorem any_isServerClose_marks (u : List Event) : (marks u).any isServerClose = u.any isServerClose := by
  rw [marks, List.any_filter]
  congr 1
  funext e
  obtain ⟨call, r⟩ := e
  cases call <;> rfl

/-- What a whole session leaves: the passphrase, if it could be copied, and what its calls leave. -/
def SessionLeft (passphrase : Bytes) (r : Except (Halt String Lost) α) (s : Store (Option Nat)) (u : List Event)
    (b : List Block) : Prop :=
  ∃ (p : Ptr) (u' : List Event), u = ⟨.malloc passphrase.length, p⟩ :: u' ∧ (Settled r → b.length =
    p.toList.length + total forgotten u + if u.any isServerClose then 0 else s.additionalInfo.toList.length)

theorem dealConnectionImpl_spends (hM : ServerAgreement own M) (hown : own none) (hw : w.store.additionalInfo = none)
    (c : Conn) (passphrase : Bytes) (fuel : Nat) :
    Spends (Moves heapChange) (dealConnectionImpl env M c passphrase fuel) w [] (SessionLeft passphrase) := by
  rw [dealConnectionImpl, makeBinarySafeString, bind_assoc]
  refine Spends.bind (spends_perform (Q := fun r s u b => s = w.store ∧ ∃ p : Ptr, r = .ok p ∧
    u = [⟨.malloc passphrase.length, p⟩] ∧ b = p.toList) ⟨_, ⟨rfl, _, rfl, rfl, rfl⟩, ?_⟩) ?_ ?_
  · cases env w.trace (.malloc passphrase.length) with
    | none => exact moves_keeps rfl
    | some b => exact moves_opens rfl
  · rintro p w₁ u b ⟨hs, p', hp, rfl, rfl⟩
    cases hp
    cases p with
    | none =>
      refine spends_raise ⟨none, [], rfl, fun _ => ?_⟩
      rw [hs, hw]
      rfl
    | some b =>
      refine Spends.imp ((impl_runs hM hown (by rw [hs, hw]) c fuel).frame [b]) fun r s u c h => ?_
      obtain ⟨c, rfl, hc⟩ := h
      refine ⟨some b, u, rfl, fun hr => ?_⟩
      have hlen := hc hr
      rw [total_marks forgotten_of_not_isMark, any_isServerClose_marks] at hlen
      rw [List.length_append, hlen, total_append, List.any_append]
      show _ = 1 + (0 + total forgotten u) + if (false || u.any isServerClose) = true then 0 else _
      rw [Bool.false_or, List.length_singleton]
      omega
  · rintro e s u b ⟨-, p, hp, -⟩
    cases hp

theorem dealConnection_spends (hM : ServerAgreement own M) (hown : own none) (hw : w.store.additionalInfo = none)
    (c : Conn) (passphrase : Bytes) (fuel : Nat) :
    Spends (Moves heapChange) (dealConnection env M c passphrase fuel) w [] (SessionLeft passphrase) := by
  have hcaught : Spends (Moves heapChange) (catching (fun _ => pure ()) (dealConnectionImpl env M c passphrase fuel)) w []
      (SessionLeft passphrase) := by
    refine Spends.catching (dealConnectionImpl_spends hM hown hw c passphrase fuel) (fun _ _ _ _ h => h) ?_ ?_
    · rintro e w₁ u b ⟨p, u', rfl, hb⟩
      refine spends_pure ⟨p, u', List.append_nil _, fun _ => ?_⟩
      rw [List.append_nil]
      exact hb trivial
    · rintro l s u b ⟨p, u', rfl, -⟩
      exact ⟨p, u', rfl, False.elim⟩
  refine Spends.bind hcaught ?_ fun e s u b h => h
  rintro _ w₁ u b ⟨p, u', rfl, hb⟩
  refine spends_perform ⟨b, ⟨p, _, rfl, fun _ => ?_⟩, moves_keeps rfl⟩
  rw [hb trivial, total_append, List.any_append]
  show _ = p.toList.length + (_ + 0) + if (_ || false) = true then 0 else _
  rw [Nat.add_zero, Bool.or_false]

end

/-- The passphrase is the first block of a session. -/
def passphraseBlock : List Event → Ptr
  | ⟨.malloc _, p⟩ :: _ => p
  | _ => none

/-- The blocks a session has left when it is over. -/
def sessionLeft (s : Store (Option Nat)) (u : List Event) : Nat :=
  (passphraseBlock u).toList.length + total forgotten u +
    if u.any isServerClose then 0 else s.additionalInfo.toList.length

theorem SessionLeft.count {α : Type} {passphrase : Bytes} {r : Except (Halt String Lost) α} {s : Store (Option Nat)}
    {u : List Event} {b : List Block} (h : SessionLeft passphrase r s u b) (hr : Settled r) :
    b.length = sessionLeft s u := by
  obtain ⟨p, u', rfl, hb⟩ := h
  exact hb hr

/-- In every run of a session on `sksrv`, with either module, nothing is freed that is not allocated, and the blocks that are
left can be told from its calls. -/
theorem serverSession_heap (which : Shipped) (env : Env Outcome) (c : Conn) (passphrase : Bytes) (fuel : Nat) :
    Ends (dealConnection env (which.server env) c passphrase fuel) ⟨⟨none, none⟩, []⟩ fun r s u =>
      ∃ held, openAfter heapChange [] u = some held ∧ (Settled r → held.length = sessionLeft s u) := by
  obtain ⟨own, hown, hM⟩ : ∃ own, own none ∧ ServerAgreement own (which.server env) := which.serverAgreement
  refine Ends.imp (dealConnection_spends hM hown rfl c passphrase fuel) fun r s u h => ?_
  obtain ⟨b, hb, hm⟩ := h
  obtain ⟨held, ho, hp⟩ := hm.openAfter
  exact ⟨held, ho, fun hr => hp.length_eq.trans (hb.count hr)⟩

/-! ## The process -/

/-- One of the sessions of a process: what happens to it, its connection, and how long it goes on. -/
structure Served where
  env : Env Outcome
  conn : Conn
  fuel : Nat

section
variable (which : Shipped) (passphrase : Bytes)

def Served.run (x : Served) : EStateM.Result (Halt String Lost) (World Outcome (Store (Option Nat))) Unit :=
  dealConnection x.env (which.server x.env) x.conn passphrase x.fuel ⟨⟨none, none⟩, []⟩

def Served.trace (x : Served) : List Event := (after (x.run which passphrase)).trace

def Served.left (x : Served) : Nat := sessionLeft (after (x.run which passphrase)).store (x.trace which passphrase)

theorem Served.moves (x : Served) : ∃ b, Moves heapChange [] (x.trace which passphrase) b ∧
    (Settled (outcome (x.run which passphrase)) → b.length = x.left which passphrase) := by
  obtain ⟨own, hown, hM⟩ : ∃ own, own none ∧ ServerAgreement own (which.server x.env) := which.serverAgreement
  have hx : Spends (Moves heapChange) (dealConnection x.env (which.server x.env) x.conn passphrase x.fuel) ⟨⟨none, none⟩, []⟩ []
      (SessionLeft passphrase) := dealConnection_spends hM hown rfl x.conn passphrase x.fuel
  obtain ⟨b, hb, hm⟩ := hx.run
  exact ⟨b, hm, hb.count⟩

end

/-- Any number of sessions, however their calls are interleaved: at every moment nothing has been freed that was not
allocated, and when all of them are over the blocks that are left are those of the single sessions. -/
theorem sessions_heap (which : Shipped) (passphrase : Bytes) {n : Nat} (sessions : Fin n → Served)
    (t : List (Fin n × Event)) (ht : ∀ i, ofParty t i <+: (sessions i).trace which passphrase) :
    ∃ held, openAfter heapChange [] (t.map Prod.snd) = some held ∧
      ((∀ i, ofParty t i = (sessions i).trace which passphrase ∧ Settled (outcome ((sessions i).run which passphrase))) →
        held.length = ((List.finRange n).map fun i => (sessions i).left which passphrase).sum) := by
  have hmoves : ∀ i, ∃ b, Moves heapChange [] (ofParty t i) b ∧
      (ofParty t i = (sessions i).trace which passphrase → Settled (outcome ((sessions i).run which passphrase)) →
        b.length = (sessions i).left which passphrase) := by
    intro i
    obtain ⟨b, hm, hb⟩ := (sessions i).moves which passphrase
    by_cases hwhole : ofParty t i = (sessions i).trace which passphrase
    · exact ⟨b, hwhole ▸ hm, fun _ => hb⟩
    · obtain ⟨rest, hrest⟩ := ht i
      obtain ⟨c, hc⟩ := (hrest ▸ hm).of_append
      exact ⟨c, hc, fun h => absurd h hwhole⟩
  choose b hb hlen using hmoves
  have hall := moves_interleaved (List.nodup_finRange n) (a := fun _ => []) (b := b) (t := t)
    (fun e _ => List.mem_finRange e.1) fun i _ => hb i
  have hnone : (List.finRange n).flatMap (fun _ => ([] : List Block)) = [] := List.flatMap_eq_nil_iff.2 fun _ _ => rfl
  rw [hnone] at hall
  obtain ⟨held, ho, hp⟩ := hall.openAfter
  refine ⟨held, ho, fun h => ?_⟩
  rw [hp.length_eq, List.length_flatMap]
  exact congrArg List.sum (List.map_congr_left fun i _ => hlen i (h i).1 (h i).2)

/-- Its blocks are numbered from `base` on, every packet is empty, and `select` fails. -/
def shortLived (base : Nat) : Served where
  env t call :=
    match call with
    | .malloc _ => some (base + t.length)
    | .free _ => ()
    | .recvInto _ _ fd n => Native.calm 3 [] (.recvn fd n)
    | .readInto _ _ => none
    | .authQuery | .encoded _ => .ofBlock []
    | .authOk _ => none
    | .authReply _ => (.ofBlock [], true)
    | .decoded _ => ⟨Vector.replicate 16 0, 0, .null false⟩
    | .other (.select _) => none
    | .other c => Native.calm 3 [] c
  conn := ⟨8080, 4⟩
  fuel := 1

theorem shortLived_settled (base : Nat) : Settled (outcome ((shortLived base).run .simpleProxy [7])) := by
  have hrun : outcome ((shortLived base).run .simpleProxy [7]) = .ok () := rfl
  rw [hrun]
  trivial

def earlier : Fin 2 := ⟨0, Nat.zero_lt_two⟩

def later : Fin 2 := ⟨1, Nat.one_lt_two⟩

/-- Two of them, one behind the other, with blocks of their own. -/
def twoSessions : Fin 2 → Served := fun i => shortLived (if i = earlier then 0 else 100)

def twoTraces : List (Fin 2 × Event) :=
  ((twoSessions earlier).trace .simpleProxy [7]).map (Prod.mk earlier) ++
    ((twoSessions later).trace .simpleProxy [7]).map (Prod.mk later)

/-- The two copies of the passphrase are left. -/
theorem sessions_heap_twice :
    ∃ held, openAfter heapChange [] (twoTraces.map Prod.snd) = some held ∧ held.length = 2 := by
  have htwo : ∀ i, i = earlier ∨ i = later := by decide
  have hparty : ∀ i, ofParty twoTraces i = (twoSessions i).trace .simpleProxy [7] := by
    intro i
    rcases htwo i with rfl | rfl
    · simp [ofParty, twoTraces, List.filter_map, Function.comp_def, earlier, later]
    · simp [ofParty, twoTraces, List.filter_map, Function.comp_def, earlier, later]
  obtain ⟨held, ho, hlen⟩ := sessions_heap .simpleProxy [7] twoSessions twoTraces fun i =>
    ⟨[], by rw [List.append_nil, hparty i]⟩
  have hleft : ∀ i, (twoSessions i).left .simpleProxy [7] = 1 := by decide +kernel
  refine ⟨held, ho, (hlen fun i => ⟨hparty i, shortLived_settled _⟩).trans ?_⟩
  simp only [hleft]
  rfl

end SnakeSocks.InboundHeap
