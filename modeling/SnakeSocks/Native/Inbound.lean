import SnakeSocks.Lib.Ledger
import SnakeSocks.Native.Calls

/-!
# One tunnel connection of `sksrv`, with its cleanup

| here | there |
| --- | --- |
| `dealConnection`, `dealConnectionImpl` | `inbound_tunnel::dealConnection` (`tunnel.cc:259`), `::dealConnectionImpl` (`:177`) |
| `doAuth` | `inbound_tunnel::doAuth` (`tunnel.cc:154`) |
| `connReadable`, `nextHopReadable` | the two branches of the loop (`tunnel.cc:197-243`, `:244-255`) |
| `quickConnect` | `rlib::quick_connect` (`sio.hpp:239`) |

The store is `nextHopConn`, which the second scope guard reads when it runs. Scope guards run in reverse order, so the
destination is closed before the module is told. A `send` to a peer that is gone returns -1 here, where the default action of `SIGPIPE`
would end `sksrv`, and `rlog` does not throw.
-/

namespace SnakeSocks.Inbound

open ByteLib CMem Effects Ledger Native
open NetLib (maxPacket refuseSend refuseRecv)
open Tunnel (isDnsQuery getDomainFromDnsQuery destOf dnsResponse chunkQuery)

structure Conn where
  bindPort : UInt16
  connfd : Nat

/-! ## The code -/

section
variable {σ : Type} (env : Env Outcome)

def recvLengthAndPacket (connfd : Nat) : Session σ BinarySafeString := do
  let n ← recvnEx env connfd 4
  if beNat n > maxPacket then raise refuseRecv else
  let data ← recvnEx env connfd (beNat n)
  return .ofBlock data

def sendLengthAndPacket (connfd : Nat) (dat : BinarySafeString) : Session σ Unit := do
  if dat.length.toNat > maxPacket then raise refuseSend else
  sendnEx env connfd (beBytes 4 dat.length.toNat)
  sendnEx env connfd dat.bytes

def doAuth (connfd : Nat) : Session σ Bool := do
  let authMsg ← recvLengthAndPacket env connfd
  let (authReplyMsg, authFailed) ← orThrow "server_make_auth_reply" (← perform env (.makeAuthReply authMsg))
  sendLengthAndPacket env connfd authReplyMsg
  return !authFailed

def quickConnect (addr : String) (port : UInt16) : Session σ Nat := connectAny env addr port

/-- The domain behind the DNS head; a name without terminator is read past the packet. -/
def domainOf (thisQuery : ClientQuery) : Session σ Bytes :=
  match getDomainFromDnsQuery thisQuery with
  | .ok domain => pure domain
  | .error _ => lose (.fault .readOutside)

/-- A DNS packet (`tunnel.cc:207-231`). -/
def answerDns (c : Conn) (thisQuery : ClientQuery) : Session σ Unit := do
  let domain ← domainOf thisQuery
  let nextHopIp ← orThrow "BOOST Failed to resolve address" (← perform env (.resolveDomainOnce domain))
  let encoded ← orThrow "server_encode" (← perform env (.serverEncode (dnsResponse thisQuery nextHopIp)))
  sendLengthAndPacket env c.connfd encoded

/-- `nextHopConn`, made if it is not there (`tunnel.cc:235-239`). -/
def nextHop (thisQuery : ClientQuery) : Session (Option Nat) Nat := do
  match ← getStore with
  | some nextHopConn => return nextHopConn
  | none =>
    let nextHopConn ← quickConnect env (destOf thisQuery).1 (destOf thisQuery).2
    setStore (some nextHopConn)
    return nextHopConn

/-- A data packet. -/
def passOn (thisQuery : ClientQuery) : Session (Option Nat) Unit := do
  let nextHopConn ← nextHop env thisQuery
  sendnEx env nextHopConn thisQuery.payload.bytes

def connReadable (c : Conn) : Session (Option Nat) Unit := do
  let data ← recvLengthAndPacket env c.connfd
  let thisQuery ← orThrow "server_decode" (← perform env (.serverDecode data))
  if isDnsQuery thisQuery then answerDns env c thisQuery else passOn env thisQuery

/-- `false` is the `return` on an empty read. -/
def nextHopReadable (c : Conn) (nextHopConn : Nat) : Session (Option Nat) Bool := do
  match ← perform env (.readall nextHopConn) with
  | none => raise "recvall failed."
  | some [] => return false
  | some (b :: bs) =>
    let encodedData ← orThrow "server_encode" (← perform env (.serverEncode (chunkQuery c.bindPort (b :: bs))))
    sendLengthAndPacket env c.connfd encodedData
    return true

/-- The loop, for `fuel` rounds. A destination connected in this round is not in `rset` yet. -/
def exchange (c : Conn) : Nat → Session (Option Nat) Unit
  | 0 => lose .running
  | fuel + 1 => do
    let inSet ← getStore
    match ← perform env (.select (c.connfd :: inSet.toList)) with
    | none => raise "Select failed"
    | some (conn, hop) =>
      let _ ← (if conn then connReadable env c else pure ())
      let up ← (match hop, inSet with
        | true, some nextHopConn => nextHopReadable env c nextHopConn
        | _, _ => pure true)
      if up then exchange c fuel else return ()

/-- The second scope guard: `if(nextHopConn != -1) close(nextHopConn)`. -/
def closeNextHop : Session (Option Nat) Unit := do
  match ← getStore with
  | some nextHopConn => perform env (.close nextHopConn)
  | none => return ()

/-- `die("client {}:{} auth failed.")`, with its arguments. -/
def refuse (c : Conn) : Session (Option Nat) Unit := do
  let peername ← orThrow "getpeername failed." (← perform env (.getPeerName c.connfd))
  raise ("client " ++ peername.1 ++ ":" ++ toString peername.2 ++ " auth failed.")

def dealConnectionImpl (c : Conn) (fuel : Nat) : Session (Option Nat) Unit := do
  if ← doAuth env c.connfd then
    deferring (perform env .serverClose) (deferring (closeNextHop env) (exchange env c fuel))
  else refuse env c

def dealConnection (c : Conn) (fuel : Nat) : Session (Option Nat) Unit := do
  catching (fun _ => pure ()) (dealConnectionImpl env c fuel)
  perform env (.close c.connfd)

end

/-! ## The table of descriptors -/

/-- What a call does to the open descriptors. -/
def fdChange : Event → Change Nat
  | ⟨.socket _, some fd⟩ => .opens fd
  | ⟨.close fd, _⟩ => .closes fd
  | _ => .keeps

section
variable {u v : List Event} {fds : List Nat}

theorem fdChange_quiet {e : Event} (h : Quiet e) : fdChange e = .keeps := by
  obtain ⟨call, r⟩ := e
  cases call <;> first | rfl | cases h

theorem openAfter_quiet (h : ∀ e ∈ u, Quiet e) : openAfter fdChange fds u = some fds :=
  openAfter_inert fun e he => fdChange_quiet (h e he)

theorem openAfter_socket {rp : Tunnel.IpAddress} {fd : Nat} :
    openAfter fdChange fds (⟨.socket rp, some fd⟩ :: u) = openAfter fdChange (fd :: fds) u := openAfter_opens rfl

theorem openAfter_close {fd : Nat} :
    openAfter fdChange (fd :: fds) (⟨.close fd, ()⟩ :: u) = openAfter fdChange fds u := openAfter_closes rfl

/-- A socket closed by the attempt that made it. -/
theorem openAfter_attempts (h : Attempts u) : openAfter fdChange fds u = some fds := by
  induction h with
  | nil => rfl
  | noSocket _ ih =>
    rw [openAfter_keeps rfl]
    exact ih
  | refused _ ih =>
    rw [openAfter_socket, openAfter_keeps rfl, openAfter_keeps rfl, openAfter_keeps rfl, openAfter_close]
    exact ih

theorem openAfter_stranded (h : Stranded v) : ∃ fd, ∀ fds, openAfter fdChange fds v = some (fd :: fds) := by
  cases h with
  | reuseAddr rp fd => exact ⟨fd, fun _ => rfl⟩
  | reusePort rp fd => exact ⟨fd, fun _ => rfl⟩

end

/-! ## What a session does between authentication and cleanup -/

/-- Calls that say nothing to the module about the connection. -/
def Working (e : Event) : Prop :=
  match e.1 with
  | .makeAuthReply _ | .serverClose => False
  | _ => True

/-- A `setsockopt` failed. -/
def OptionFails (t : List Event) : Prop := ∃ fd opt, ⟨.setsockopt fd opt, false⟩ ∈ t

/-- From `nextHopConn = st` to `st'`: beside the destination nothing is open that was not open before. -/
structure Kept (st st' : Option Nat) (u : List Event) : Prop where
  working : ∀ e ∈ u, Working e
  options : ¬OptionFails u
  table : ∀ fds, openAfter fdChange (st.toList ++ fds) u = some (st'.toList ++ fds)

/-- One socket too many is open, and an option failed on the way. -/
structure Left (st st' : Option Nat) (u : List Event) : Prop where
  working : ∀ e ∈ u, Working e
  options : OptionFails u
  table : ∃ fd, ∀ fds, openAfter fdChange (st.toList ++ fds) u = some (fd :: (st'.toList ++ fds))

/-- How a part of the session ends: only an exception leaves a socket behind. -/
inductive Relayed {α : Type} (st : Option Nat) : Except (Halt String Lost) α → Option Nat → List Event → Prop
  | kept {r : Except (Halt String Lost) α} {st' : Option Nat} {u : List Event} : Kept st st' u → Relayed st r st' u
  | left {what : String} {st' : Option Nat} {u : List Event} : Left st st' u → Relayed st (.error (.raised what)) st' u

def Relaying {α : Type} (x : Session (Option Nat) α) : Prop := ∀ w, Ends x w (Relayed w.store)

section
variable {α β : Type} {x : Session (Option Nat) α} {f : α → Session (Option Nat) β} {env : Env Outcome}
  {st st₁ st₂ : Option Nat} {u v : List Event}

theorem Quiet.working {e : Event} (h : Quiet e) : Working e := by
  obtain ⟨call, r⟩ := e
  cases call <;> trivial

theorem kept_quiet (h : ∀ e ∈ u, Quiet e) (st : Option Nat) : Kept st st u := by
  refine ⟨fun e he => Quiet.working (h e he), ?_, fun fds => openAfter_quiet h⟩
  rintro ⟨fd, opt, hm⟩
  exact h _ hm

theorem optionFails_append : OptionFails (u ++ v) ↔ OptionFails u ∨ OptionFails v := by
  constructor
  · rintro ⟨fd, opt, hm⟩
    rcases List.mem_append.1 hm with hm | hm
    · exact .inl ⟨fd, opt, hm⟩
    · exact .inr ⟨fd, opt, hm⟩
  · rintro (⟨fd, opt, hm⟩ | ⟨fd, opt, hm⟩)
    · exact ⟨fd, opt, List.mem_append.2 (.inl hm)⟩
    · exact ⟨fd, opt, List.mem_append.2 (.inr hm)⟩

theorem Kept.trans (hu : Kept st st₁ u) (hv : Kept st₁ st₂ v) : Kept st st₂ (u ++ v) := by
  refine ⟨fun e he => ?_, ?_, fun fds => ?_⟩
  · exact (List.mem_append.1 he).elim (hu.working e) (hv.working e)
  · rw [optionFails_append]
    exact fun h => h.elim hu.options hv.options
  · rw [openAfter_append (hu.table fds), hv.table fds]

theorem Kept.left (hu : Kept st st₁ u) (hv : Left st₁ st₂ v) : Left st st₂ (u ++ v) := by
  obtain ⟨fd, ht⟩ := hv.table
  refine ⟨fun e he => ?_, ?_, fd, fun fds => ?_⟩
  · exact (List.mem_append.1 he).elim (hu.working e) (hv.working e)
  · rw [optionFails_append]
    exact .inr hv.options
  · rw [openAfter_append (hu.table fds), ht fds]

theorem Relaying.of_steady (hx : Steady Quiet x) : Relaying x := by
  intro w
  refine (hx w).imp fun r s u h => ?_
  obtain ⟨rfl, hu⟩ := h
  exact .kept (kept_quiet hu _)

theorem Relaying.bind (hx : Relaying x) (hf : ∀ a, Relaying (f a)) : Relaying (x >>= f) := by
  intro w
  refine (hx w).bind (fun a w' u _ hu => ?_) (fun e s u hu => ?_)
  · cases hu with
    | kept hk =>
      refine (hf a w').imp fun r s v hv => ?_
      cases hv with
      | kept hv => exact .kept (hk.trans hv)
      | left hv => exact .left (hk.left hv)
  · cases hu with
    | kept hk => exact .kept hk
    | left hl => exact .left hl

end

/-! ## The parts of the session -/

section
variable {σ : Type} {env : Env Outcome}

theorem steady_recvLengthAndPacket (connfd : Nat) :
    Steady Quiet (recvLengthAndPacket env connfd : Session σ BinarySafeString) := by
  refine (steady_recvnEx connfd 4).bind fun n => ?_
  split
  · exact steady_raise _
  · exact (steady_recvnEx connfd _).bind fun data => steady_pure _

theorem steady_sendLengthAndPacket (connfd : Nat) (dat : BinarySafeString) :
    Steady Quiet (sendLengthAndPacket env connfd dat : Session σ Unit) := by
  unfold sendLengthAndPacket
  split
  · exact steady_raise _
  · exact (steady_sendnEx connfd _).bind fun _ => steady_sendnEx connfd _

theorem steady_answerDns (c : Conn) (thisQuery : ClientQuery) :
    Steady Quiet (answerDns env c thisQuery : Session σ Unit) := by
  have hdomain : Steady Quiet (domainOf thisQuery : Session σ Bytes) := by
    unfold domainOf
    split
    · exact steady_pure _
    · exact steady_lose _
  refine hdomain.bind fun domain => ?_
  refine (steady_perform fun r => trivial).bind fun r => ?_
  refine (steady_orThrow _ _).bind fun ip => ?_
  refine (steady_perform fun r => trivial).bind fun r => ?_
  exact (steady_orThrow _ _).bind fun encoded => steady_sendLengthAndPacket c.connfd encoded

theorem steady_nextHopReadable (c : Conn) (nextHopConn : Nat) : Steady Quiet (nextHopReadable env c nextHopConn) := by
  refine (steady_perform fun r => trivial).bind fun r => ?_
  rcases r with _ | _ | ⟨b, bs⟩
  · exact steady_raise _
  · exact steady_pure _
  · refine (steady_perform fun r => trivial).bind fun r => ?_
    refine (steady_orThrow _ _).bind fun encoded => ?_
    exact (steady_sendLengthAndPacket c.connfd encoded).bind fun _ => steady_pure _

theorem Dialling.working {e : Event} (h : Dialling e) : Working e := by
  obtain ⟨call, r⟩ := e
  cases call <;> trivial

theorem not_optionFails_attempts {u : List Event} (h : Attempts u) : ¬OptionFails u := by
  induction h with
  | nil => simp [OptionFails]
  | noSocket _ ih => simpa [OptionFails] using ih
  | refused _ ih => simpa [OptionFails] using ih

theorem optionFails_stranded {v : List Event} (h : Stranded v) : OptionFails v := by
  cases h with
  | reuseAddr rp fd => exact ⟨fd, .reuseAddr, by simp⟩
  | reusePort rp fd => exact ⟨fd, .reusePort, by simp⟩

/-- A connect that succeeds adds the socket it returns. -/
theorem Dialled.kept {addr : String} {port : UInt16} {fd : Nat} {u : List Event} (h : Dialled addr port (.ok fd) u) :
    Kept none (some fd) u := by
  obtain ⟨d, rp, hu, hd, -, -⟩ := h.of_ok (m := 0)
  refine ⟨fun e he => ?_, ?_, fun fds => ?_⟩
  · rw [hu] at he
    simp only [List.mem_append, List.mem_cons, List.not_mem_nil, or_false] at he
    rcases he with he | rfl | rfl
    · exact Dialling.working (hd e he)
    · trivial
    · trivial
  · cases h with
    | connected rps rp fd ha =>
      have hn := not_optionFails_attempts ha
      rintro ⟨fd', opt, hm⟩
      refine hn ⟨fd', opt, ?_⟩
      simpa [attached] using hm
  · cases h with
    | connected rps rp fd ha =>
      rw [openAfter_keeps rfl, List.append_assoc, openAfter_append (openAfter_attempts ha)]
      rfl

/-- A connect that fails leaves one socket, or none. -/
theorem Dialled.relayed {α : Type} {addr : String} {port : UInt16} {e : Halt String Lost} {u : List Event}
    (h : Dialled addr port (.error e) u) : @Relayed α none (.error e) none u := by
  have hw : ∀ e ∈ u, Working e := fun e he => Dialling.working ((h.of_error (m := 0)).1 e he)
  cases h with
  | unresolved what ret =>
    refine .kept ⟨hw, ?_, fun fds => rfl⟩
    simp [OptionFails]
  | refused what rps ha =>
    refine .kept ⟨hw, ?_, fun fds => ?_⟩
    · have hn := not_optionFails_attempts ha
      rintro ⟨fd', opt, hm⟩
      exact hn ⟨fd', opt, by simpa using hm⟩
    · rw [openAfter_keeps rfl, openAfter_append (openAfter_attempts ha)]
      rfl
  | stranded what rps ha hv =>
    obtain ⟨fd, ht⟩ := openAfter_stranded hv
    refine .left ⟨hw, ?_, fd, fun fds => ?_⟩
    · obtain ⟨fd', opt, hm⟩ := optionFails_stranded hv
      exact ⟨fd', opt, by simp [hm]⟩
    · rw [openAfter_keeps rfl, List.append_assoc, openAfter_append (openAfter_attempts ha), openAfter_append (ht _)]
      rfl

/-- The destination is connected once, and kept in `nextHopConn`. -/
theorem relaying_nextHop (thisQuery : ClientQuery) : Relaying (nextHop env thisQuery) := by
  intro w
  cases hst : w.store with
  | some fd =>
    have hrun : nextHop env thisQuery w = .ok fd w := by
      rw [nextHop, bind_of_ok (rfl : getStore w = _), hst]
      rfl
    exact (ends_of_ok hrun).2 ⟨[], by simp, by rw [hst]; exact .kept (kept_quiet (by simp) _)⟩
  | none =>
    have hsame : nextHop env thisQuery w = (do
        let nextHopConn ← quickConnect env (destOf thisQuery).1 (destOf thisQuery).2
        setStore (some nextHopConn)
        return nextHopConn : Session (Option Nat) Nat) w := by
      rw [nextHop, bind_of_ok (rfl : getStore w = _), hst]
    refine Ends.congr ?_ hsame
    refine (connectAny_ends env _ _ w).bind (fun fd w₁ u t₁ h => ?_) (fun e s u h => ?_)
    · obtain ⟨s₁, hd⟩ := h
      refine (ends_setStore (Q := fun r s v => r = .ok () ∧ s = some fd ∧ v = []) ⟨rfl, rfl, rfl⟩).bind
        (fun _ w₂ v t₂ h => ends_pure ?_) (fun e s v h => by simp at h)
      obtain ⟨-, hs, rfl⟩ := h
      rw [hs]
      simpa using .kept (Dialled.kept hd)
    · obtain ⟨s₁, hd⟩ := h
      rw [s₁, hst]
      exact Dialled.relayed hd

theorem relaying_perform (call : Call) (h : ∀ r, Quiet ⟨call, r⟩) : Relaying (perform env call) :=
  .of_steady (steady_perform h)

theorem relaying_connReadable (c : Conn) : Relaying (connReadable env c) := by
  refine (Relaying.of_steady (steady_recvLengthAndPacket c.connfd)).bind fun data => ?_
  refine (relaying_perform (.serverDecode data) fun r => trivial).bind fun r => ?_
  refine (Relaying.of_steady (steady_orThrow _ _)).bind fun thisQuery => ?_
  split
  · exact .of_steady (steady_answerDns c thisQuery)
  · exact (relaying_nextHop thisQuery).bind fun fd => .of_steady (steady_sendnEx fd _)

/-- Every round, and so the loop. -/
theorem relaying_exchange (c : Conn) (fuel : Nat) : Relaying (exchange env c fuel) := by
  induction fuel with
  | zero => exact .of_steady (steady_lose _)
  | succ fuel ih =>
    refine Relaying.bind (x := getStore) (fun w => ends_getStore (.kept (kept_quiet (by simp) _))) fun inSet => ?_
    refine (relaying_perform (.select _) fun r => trivial).bind fun r => ?_
    rcases r with _ | ⟨conn, hop⟩
    · exact .of_steady (steady_raise _)
    · have hconn : Relaying (if conn then connReadable env c else pure ()) := by
        split
        · exact relaying_connReadable c
        · exact .of_steady (steady_pure _)
      refine hconn.bind fun _ => ?_
      refine Relaying.bind (.of_steady ?_) fun up => ?_
      · split
        · exact steady_nextHopReadable c _
        · exact steady_pure _
      · cases up with
        | false => exact .of_steady (steady_pure _)
        | true => exact ih

end

/-! ## The shape of a run -/

/-- The two sends of a length-prefixed packet, both successful. -/
def sentPacket (connfd : Nat) (dat : BinarySafeString) : List Event :=
  [⟨.sendn connfd (beBytes 4 dat.length.toNat), true⟩, ⟨.sendn connfd dat.bytes, true⟩]

/-- The three ways to throw in `send_length_and_packet`. -/
inductive SendFails (connfd : Nat) (dat : BinarySafeString) : List Event → Prop
  | tooLong : maxPacket < dat.length.toNat → SendFails connfd dat []
  | header : SendFails connfd dat [⟨.sendn connfd (beBytes 4 dat.length.toNat), false⟩]
  | body : SendFails connfd dat
      [⟨.sendn connfd (beBytes 4 dat.length.toNat), true⟩, ⟨.sendn connfd dat.bytes, false⟩]

/-- How `doAuth` ends behind the client's packet, by the module's answer and what became of it. -/
inductive Judged (connfd : Nat) : Except (Halt String Lost) Bool → List Event → Prop
  | unread (e : Halt String Lost) : Judged connfd (.error e) []
  | thrown (e : Halt String Lost) (query : BinarySafeString) : Judged connfd (.error e) [⟨.makeAuthReply query, none⟩]
  | unsent {u : List Event} (e : Halt String Lost) (query reply : BinarySafeString) (authFailed : Bool) :
      SendFails connfd reply u → Judged connfd (.error e) (⟨.makeAuthReply query, some (reply, authFailed)⟩ :: u)
  | sent (query reply : BinarySafeString) (authFailed : Bool) : reply.length.toNat ≤ maxPacket →
      Judged connfd (.ok !authFailed) (⟨.makeAuthReply query, some (reply, authFailed)⟩ :: sentPacket connfd reply)

/-- A call that accepts no client. -/
def Unaccepting (e : Event) : Prop :=
  Quiet e ∨ ∃ query answer, e = ⟨.makeAuthReply query, answer⟩ ∧ ∀ reply, answer ≠ some (reply, false)

/-- The calls of the second scope guard. -/
def closing : Option Nat → List Event
  | some fd => [⟨.close fd, ()⟩]
  | none => []

/-- The calls of a client that was accepted and served, up to the first scope guard. -/
def served (c : Conn) (q : List Event) (query reply : BinarySafeString) (u : List Event) (st : Option Nat) : List Event :=
  q ++ ⟨.makeAuthReply query, some (reply, false)⟩ ::
    (sentPacket c.connfd reply ++ (u ++ (closing st ++ [⟨.serverClose, ()⟩])))

/-- The run before the last `close`: no client was accepted, the acceptance did not go out, or the client was served
and both scope guards ran. -/
inductive Dealt (c : Conn) : List Event → Prop
  | unaccepted {u : List Event} : (∀ e ∈ u, Unaccepting e) → Dealt c u
  | unsent {q u : List Event} (query reply : BinarySafeString) : (∀ e ∈ q, Quiet e) → SendFails c.connfd reply u →
      Dealt c (q ++ ⟨.makeAuthReply query, some (reply, false)⟩ :: u)
  | served {q u : List Event} {st : Option Nat} (query reply : BinarySafeString) : (∀ e ∈ q, Quiet e) →
      reply.length.toNat ≤ maxPacket → Kept none st u ∨ Left none st u → Dealt c (served c q query reply u st)

section
variable {σ : Type} {env : Env Outcome}

theorem sendLengthAndPacket_ends (connfd : Nat) (dat : BinarySafeString) (w : World Outcome σ) :
    Ends (sendLengthAndPacket env connfd dat) w fun r s u => s = w.store ∧
      ((r = .ok () ∧ dat.length.toNat ≤ maxPacket ∧ u = sentPacket connfd dat) ∨
        ∃ what, r = .error (.raised what) ∧ SendFails connfd dat u) := by
  unfold sendLengthAndPacket
  split
  · next hlong => exact ends_raise ⟨rfl, .inr ⟨_, rfl, .tooLong hlong⟩⟩
  · next hshort =>
    have hsend : ∀ bs (w : World Outcome σ), Ends (sendnEx env connfd bs) w fun r s u => s = w.store ∧
        ((r = .ok () ∧ u = [⟨.sendn connfd bs, true⟩]) ∨ ∃ what, r = .error (.raised what) ∧ u = [⟨.sendn connfd bs, false⟩]) := by
      intro bs w
      refine ends_perform_bind fun w₁ s₁ t₁ => ?_
      generalize env w.trace (.sendn connfd bs) = ok at t₁ ⊢
      cases ok with
      | false => exact ends_raise ⟨s₁, .inr ⟨_, rfl, rfl⟩⟩
      | true => exact ends_pure ⟨s₁, .inl ⟨rfl, rfl⟩⟩
    refine (hsend _ w).bind (fun _ w₁ u t₁ h => ?_) (fun e s u h => ?_)
    · obtain ⟨s₁, ⟨-, rfl⟩ | ⟨what, hr, -⟩⟩ := h
      swap
      · cases hr
      refine (hsend _ w₁).imp fun r s v h => ?_
      obtain ⟨s₂, ⟨hr, rfl⟩ | ⟨what, hr, rfl⟩⟩ := h
      · exact ⟨s₂.trans s₁, .inl ⟨hr, not_lt.1 hshort, rfl⟩⟩
      · exact ⟨s₂.trans s₁, .inr ⟨what, hr, .body⟩⟩
    · obtain ⟨s₁, ⟨hr, -⟩ | ⟨what, hr, rfl⟩⟩ := h
      · cases hr
      · cases hr
        exact ⟨s₁, .inr ⟨what, rfl, .header⟩⟩

theorem doAuth_ends (connfd : Nat) (w : World Outcome σ) :
    Ends (doAuth env connfd) w fun r s u => s = w.store ∧
      ∃ q v, u = q ++ v ∧ (∀ e ∈ q, Quiet e) ∧ Judged connfd r v := by
  refine (steady_recvLengthAndPacket connfd w).bind (fun authMsg w₁ q t₁ h => ?_) (fun e s q h => ?_)
  swap
  · exact ⟨h.1, q, [], by simp, h.2, .unread e⟩
  obtain ⟨s₁, hq⟩ := h
  refine ends_perform_bind fun w₂ s₂ t₂ => ?_
  generalize env w₁.trace (.makeAuthReply authMsg) = answer at t₂ ⊢
  match answer with
  | none =>
    refine Ends.congr (x := raise "server_make_auth_reply") (ends_raise ?_) rfl
    exact ⟨s₂.trans s₁, q, _, rfl, hq, .thrown _ authMsg⟩
  | some (reply, authFailed) =>
    refine (ends_pure (Q := fun r s u => r = .ok (reply, authFailed) ∧ s = w₂.store ∧ u = []) ⟨rfl, rfl, rfl⟩).bind
      (fun a w₃ u t₃ h => ?_) (fun e s u h => by simp at h)
    obtain ⟨ha, s₃, rfl⟩ := h
    cases ha
    refine (sendLengthAndPacket_ends connfd reply w₃).bind (fun _ w₄ v t₄ h => ?_) (fun e s v h => ?_)
    · obtain ⟨s₄, ⟨-, hlen, rfl⟩ | ⟨what, hr, -⟩⟩ := h
      swap
      · cases hr
      refine ends_pure ⟨by rw [s₄, s₃, s₂, s₁], q, _, ?_, hq, .sent authMsg reply authFailed hlen⟩
      simp
    · obtain ⟨s₄, ⟨hr, -⟩ | ⟨what, hr, hv⟩⟩ := h
      · cases hr
      · exact ⟨by rw [s₄, s₃, s₂, s₁], q, _, by simp, hq, .unsent e authMsg reply authFailed hv⟩

/-- Both scope guards around the loop, from a session without destination. -/
theorem guarded_ends (c : Conn) (fuel : Nat) (w : World Outcome (Option Nat)) (hst : w.store = none) :
    Ends (deferring (perform env .serverClose) (deferring (closeNextHop env) (exchange env c fuel))) w fun r _ u =>
      (∃ v st, (Kept none st v ∨ Left none st v) ∧ u = v ++ closing st ++ [⟨.serverClose, ()⟩]) ∨
        ∃ f, r = .error (.lost f) := by
  have hclose : ∀ w : World Outcome (Option Nat), Ends (closeNextHop env) w fun r _ u =>
      r = .ok () ∧ u = closing w.store := by
    intro w
    cases hs : w.store with
    | none =>
      have hrun : closeNextHop env w = .ok () w := by
        rw [closeNextHop, bind_of_ok (rfl : getStore w = _), hs]
        rfl
      exact (ends_of_ok hrun).2 ⟨[], by simp, rfl, rfl⟩
    | some fd =>
      refine Ends.congr (ends_perform ⟨rfl, rfl⟩) (?_ : closeNextHop env w = perform env (.close fd) w)
      rw [closeNextHop, bind_of_ok (rfl : getStore w = _), hs]
  have hinner : Ends (deferring (closeNextHop env) (exchange env c fuel)) w fun r _ u =>
      (∃ v st, (Kept none st v ∨ Left none st v) ∧ u = v ++ closing st) ∨ ∃ f, r = .error (.lost f) := by
    have hloop := @relaying_exchange env c fuel w
    rw [hst] at hloop
    refine hloop.deferring (fun a w₁ v t₁ h => ?_) (fun e w₁ v t₁ h => ?_) (fun f s v h => .inr ⟨f, rfl⟩)
    · refine (hclose w₁).bind (fun _ w₂ v' t₂ h' => ends_pure ?_) (fun e s v' h' => by simp at h')
      cases h with
      | kept hk => exact .inl ⟨v, _, .inl hk, by simp [h'.2]⟩
    · refine (hclose w₁).bind (fun _ w₂ v' t₂ h' => ends_raise ?_) (fun e s v' h' => by simp at h')
      cases h with
      | kept hk => exact .inl ⟨v, _, .inl hk, by simp [h'.2]⟩
      | left hl => exact .inl ⟨v, _, .inr hl, by simp [h'.2]⟩
  refine hinner.deferring (fun a w₁ u t₁ h => ?_) (fun e w₁ u t₁ h => ?_) (fun f s v h => .inr ⟨f, rfl⟩)
  · refine ends_perform_bind fun w₂ s₂ t₂ => ends_pure ?_
    rcases h with ⟨v, st, hv, rfl⟩ | ⟨f, hf⟩
    · exact .inl ⟨v, st, hv, rfl⟩
    · cases hf
  · refine ends_perform_bind fun w₂ s₂ t₂ => ends_raise ?_
    rcases h with ⟨v, st, hv, rfl⟩ | ⟨f, hf⟩
    · exact .inl ⟨v, st, hv, rfl⟩
    · cases hf

theorem SendFails.quiet {connfd : Nat} {dat : BinarySafeString} {u : List Event} (h : SendFails connfd dat u) :
    ∀ e ∈ u, Quiet e := by
  cases h <;> simp [Quiet]

theorem quiet_sentPacket (connfd : Nat) (dat : BinarySafeString) : ∀ e ∈ sentPacket connfd dat, Quiet e := by
  simp [sentPacket, Quiet]

theorem steady_refuse (c : Conn) : Steady Quiet (refuse env c) := by
  refine (steady_perform fun r => trivial).bind fun r => ?_
  exact (steady_orThrow _ _).bind fun peername => steady_raise _

/-- A module that throws or says no has accepted nobody, whatever follows. -/
theorem dealt_unaccepted {c : Conn} {q v : List Event} {query : BinarySafeString}
    {answer : Option (BinarySafeString × Bool)} (hq : ∀ e ∈ q, Quiet e) (hv : ∀ e ∈ v, Quiet e)
    (ha : ∀ reply, answer ≠ some (reply, false)) : Dealt c (q ++ ⟨.makeAuthReply query, answer⟩ :: v) := by
  refine .unaccepted fun e he => ?_
  rcases List.mem_append.1 he with he | he
  · exact .inl (hq e he)
  · rcases List.mem_cons.1 he with rfl | he
    · exact .inr ⟨query, answer, rfl, ha⟩
    · exact .inl (hv e he)

theorem dealConnectionImpl_ends (c : Conn) (fuel : Nat) (w : World Outcome (Option Nat)) (hst : w.store = none) :
    Ends (dealConnectionImpl env c fuel) w fun r _ u => Dealt c u ∨ ∃ f, r = .error (.lost f) := by
  refine (doAuth_ends c.connfd w).bind (fun accepted w₁ u t₁ h => ?_) (fun e s u h => .inl ?_)
  · obtain ⟨s₁, q, v, rfl, hq, hv⟩ := h
    cases hv with
    | sent query reply authFailed hlen =>
      cases authFailed with
      | false =>
        refine (guarded_ends c fuel w₁ (s₁.trans hst)).imp fun r s u' h => ?_
        rcases h with ⟨v, st, hv, rfl⟩ | hlost
        · have hd := Dealt.served (c := c) query reply hq hlen hv
          exact .inl (by simpa [served] using hd)
        · exact .inr hlost
      | true =>
        refine (steady_refuse c w₁).imp fun r s u' h => .inl ?_
        rw [List.append_assoc, List.cons_append]
        refine dealt_unaccepted hq (fun e he => ?_) (by simp)
        exact (List.mem_append.1 he).elim (quiet_sentPacket _ _ e) (h.2 e)
  · obtain ⟨-, q, v, rfl, hq, hv⟩ := h
    cases hv with
    | unread => exact .unaccepted fun e he => .inl (hq e (by simpa using he))
    | thrown _ query => exact dealt_unaccepted hq (by simp) (by simp)
    | unsent _ query reply authFailed hv =>
      cases authFailed with
      | false => exact .unsent query reply hq hv
      | true => exact dealt_unaccepted hq hv.quiet (by simp)

theorem dealConnection_ends (c : Conn) (fuel : Nat) (w : World Outcome (Option Nat)) (hst : w.store = none) :
    Ends (dealConnection env c fuel) w fun r _ u =>
      (∃ v, Dealt c v ∧ u = v ++ [⟨.close c.connfd, ()⟩]) ∨ ∃ f, r = .error (.lost f) := by
  have hbody : Ends (catching (fun _ => pure ()) (dealConnectionImpl env c fuel)) w fun r _ u =>
      Dealt c u ∧ r = .ok () ∨ ∃ f, r = .error (.lost f) := by
    refine (dealConnectionImpl_ends c fuel w hst).catching (fun _ s u h => ?_) (fun e w₁ u t₁ h => ?_)
      (fun f s u h => .inr ⟨f, rfl⟩)
    · rcases h with h | ⟨f, hf⟩
      · exact .inl ⟨h, rfl⟩
      · cases hf
    · rcases h with h | ⟨f, hf⟩
      · exact ends_pure (.inl ⟨by simpa using h, rfl⟩)
      · cases hf
  refine hbody.bind (fun _ w₁ u t₁ h => ?_) (fun e s u h => ?_)
  · rcases h with ⟨h, -⟩ | ⟨f, hf⟩
    · exact ends_perform (.inl ⟨u, h, rfl⟩)
    · cases hf
  · rcases h with ⟨-, hr⟩ | ⟨f, hf⟩
    · cases hr
    · exact .inr ⟨f, hf⟩

end

/-! ## Cleanup -/

/-- The module codes a packet. -/
def Coding (e : Event) : Prop :=
  match e.1 with
  | .serverEncode _ | .serverDecode _ => True
  | _ => False

/-- `onCloseConn` was called exactly once, and nothing was coded after it. -/
def ClosedOnce (t : List Event) : Prop :=
  ∃ pre post, t = pre ++ ⟨.serverClose, ()⟩ :: post ∧ ⟨.serverClose, ()⟩ ∉ pre ∧ ⟨.serverClose, ()⟩ ∉ post ∧
    ∀ e ∈ post, ¬Coding e

/-- What `dealConnection` owes: from the accepted descriptor alone, every descriptor is closed once and none is left, and
the module is told about a client it accepted. -/
structure CleanedUp (c : Conn) (t : List Event) : Prop where
  descriptors : openAfter fdChange [c.connfd] t = some []
  module : ∀ query reply, ⟨.makeAuthReply query, some (reply, false)⟩ ∈ t → ClosedOnce t

/-- The reply to a client that was accepted is not too long, and neither of its two sends fails. -/
def Delivered (c : Conn) (t : List Event) : Prop :=
  ∀ pre query reply post, t = pre ++ ⟨.makeAuthReply query, some (reply, false)⟩ :: post →
    reply.length.toNat ≤ maxPacket ∧ ∀ bs, ⟨.sendn c.connfd bs, false⟩ ∉ post.take 2

section
variable {c : Conn} {q u v : List Event} {st : Option Nat} {query reply : BinarySafeString}

theorem openAfter_unaccepting (h : ∀ e ∈ u, Unaccepting e) {fds : List Nat} : openAfter fdChange fds u = some fds := by
  refine openAfter_inert fun e he => ?_
  rcases h e he with hq | ⟨query, answer, rfl, -⟩
  · exact fdChange_quiet hq
  · rfl

/-- The second scope guard closes exactly the destination. -/
theorem openAfter_closing (st : Option Nat) (fds : List Nat) :
    openAfter fdChange (st.toList ++ fds) (closing st) = some fds := by
  cases st with
  | none => rfl
  | some fd => exact openAfter_close

theorem Dealt.unaccepted_cleanedUp (h : ∀ e ∈ u, Unaccepting e) :
    CleanedUp c (u ++ [⟨.close c.connfd, ()⟩]) ∧ Delivered c (u ++ [⟨.close c.connfd, ()⟩]) ∧
      ¬OptionFails (u ++ [⟨.close c.connfd, ()⟩]) := by
  have hno : ∀ query reply, ⟨.makeAuthReply query, some (reply, false)⟩ ∉ u ++ [⟨.close c.connfd, ()⟩] := by
    intro query reply hm
    have hm : ⟨.makeAuthReply query, some (reply, false)⟩ ∈ u := by simpa using hm
    rcases h _ hm with hq | ⟨query', answer, he, ha⟩
    · exact hq
    · cases he
      exact ha reply rfl
  refine ⟨⟨?_, fun query reply hm => absurd hm (hno query reply)⟩, ?_, ?_⟩
  · rw [openAfter_append (openAfter_unaccepting h), openAfter_close, openAfter_nil]
  · rintro pre query reply post ht
    exact absurd (by simp [ht]) (hno query reply)
  · rintro ⟨fd, opt, hm⟩
    have hm : ⟨.setsockopt fd opt, false⟩ ∈ u := by simpa using hm
    rcases h _ hm with hq | ⟨query, answer, he, -⟩
    · exact hq
    · cases he

/-- The exception between the module's answer and the scope guards. -/
theorem Dealt.unsent_not (hq : ∀ e ∈ q, Quiet e) (hu : SendFails c.connfd reply u) :
    let t := q ++ ⟨.makeAuthReply query, some (reply, false)⟩ :: u ++ [⟨.close c.connfd, ()⟩]
    ¬CleanedUp c t ∧ ¬Delivered c t := by
  intro t
  constructor
  · intro h
    obtain ⟨pre, post, ht, -⟩ := h.module query reply (by simp [t])
    have hm : (⟨.serverClose, ()⟩ : Event) ∈ t := by simp [ht]
    have hnq : (⟨.serverClose, ()⟩ : Event) ∉ q := fun hm => hq _ hm
    have hnu : (⟨.serverClose, ()⟩ : Event) ∉ u := fun hm => hu.quiet _ hm
    simp [t, hnq, hnu] at hm
  · intro h
    obtain ⟨hlen, hsend⟩ := h q query reply (u ++ [⟨.close c.connfd, ()⟩]) (by simp [t])
    cases hu with
    | tooLong hlong => omega
    | header => exact hsend (beBytes 4 reply.length.toNat) (by simp)
    | body => exact hsend reply.bytes (by simp)

/-- The two guards run in the order the module needs. -/
theorem served_closedOnce (hq : ∀ e ∈ q, Quiet e) (hw : ∀ e ∈ u, Working e) :
    ClosedOnce (served c q query reply u st ++ [⟨.close c.connfd, ()⟩]) := by
  refine ⟨q ++ ⟨.makeAuthReply query, some (reply, false)⟩ :: (sentPacket c.connfd reply ++ (u ++ closing st)),
    [⟨.close c.connfd, ()⟩], by simp [served], ?_, by simp, by simp [Coding]⟩
  have h₁ : (⟨.serverClose, ()⟩ : Event) ∉ q := fun hm => hq _ hm
  have h₂ : (⟨.serverClose, ()⟩ : Event) ∉ u := fun hm => hw _ hm
  have h₃ : (⟨.serverClose, ()⟩ : Event) ∉ closing st := by cases st <;> simp [closing]
  simp [sentPacket, h₁, h₂, h₃]

/-- Everything but the loop, on the table of descriptors. -/
theorem openAfter_served (hq : ∀ e ∈ q, Quiet e) {fds : List Nat} (hu : openAfter fdChange [c.connfd] u = some fds) :
    openAfter fdChange [c.connfd] (served c q query reply u st ++ [⟨.close c.connfd, ()⟩]) =
      openAfter fdChange fds (closing st ++ [⟨.serverClose, ()⟩, ⟨.close c.connfd, ()⟩]) := by
  have hsame : served c q query reply u st ++ [⟨.close c.connfd, ()⟩] = q ++ ⟨.makeAuthReply query, some (reply, false)⟩ ::
      (sentPacket c.connfd reply ++ (u ++ (closing st ++ [⟨.serverClose, ()⟩, ⟨.close c.connfd, ()⟩]))) := by
    simp [served]
  rw [hsame, openAfter_append (openAfter_quiet hq), openAfter_keeps rfl,
    openAfter_append (openAfter_quiet (quiet_sentPacket _ _)), openAfter_append hu]

theorem openAfter_guards (c : Conn) (st : Option Nat) (fds : List Nat) :
    openAfter fdChange (st.toList ++ c.connfd :: fds) (closing st ++ [⟨.serverClose, ()⟩, ⟨.close c.connfd, ()⟩]) = some fds := by
  rw [openAfter_append (openAfter_closing st _), openAfter_keeps rfl, openAfter_close, openAfter_nil]

theorem optionFails_served (hq : ∀ e ∈ q, Quiet e) :
    OptionFails (served c q query reply u st ++ [⟨.close c.connfd, ()⟩]) ↔ OptionFails u := by
  have hno : ∀ fd opt, (⟨.setsockopt fd opt, false⟩ : Event) ∉ q := fun fd opt hm => hq _ hm
  have hnc : ∀ fd opt, (⟨.setsockopt fd opt, false⟩ : Event) ∉ closing st := by
    intro fd opt
    cases st <;> simp [closing]
  simp [OptionFails, served, sentPacket, hno, hnc]

/-- Nothing else in the session is an acceptance, so the one the loop is behind is the one that was sent. -/
theorem delivered_served (hq : ∀ e ∈ q, Quiet e) (hlen : reply.length.toNat ≤ maxPacket) (hw : ∀ e ∈ u, Working e) :
    Delivered c (served c q query reply u st ++ [⟨.close c.connfd, ()⟩]) := by
  intro pre query' reply' post ht
  rw [served, List.append_assoc, List.cons_append] at ht
  have hnq : (⟨.makeAuthReply query', some (reply', false)⟩ : Event) ∉ q := fun hm => hq _ hm
  have hnu : (⟨.makeAuthReply query', some (reply', false)⟩ : Event) ∉ u := fun hm => hw _ hm
  have hnc : (⟨.makeAuthReply query', some (reply', false)⟩ : Event) ∉ closing st := by cases st <;> simp [closing]
  obtain ⟨-, he, hpost⟩ := (List.append_cons_inj_of_notMem hnq (by simp [sentPacket, hnu, hnc])).1 ht
  cases he
  refine ⟨hlen, fun bs hm => ?_⟩
  rw [← hpost] at hm
  simp [sentPacket] at hm

/-- **Cleanup.** For every environment and every number of rounds: a session that returned has closed every descriptor
once and told the module about its client exactly when no acceptance failed to go out and no option failed on a socket
towards the destination. -/
theorem session_cleanup_iff (env : Env Outcome) (c : Conn) (fuel : Nat) (w : World Outcome (Option Nat))
    (hrun : dealConnection env c fuel ⟨none, []⟩ = .ok () w) :
    CleanedUp c w.trace ↔ Delivered c w.trace ∧ ¬OptionFails w.trace := by
  obtain ⟨u, ht, h⟩ := (dealConnection_ends c fuel ⟨none, []⟩ rfl).ok hrun
  rw [List.nil_append] at ht
  rw [ht]
  rcases h with ⟨v, hv, rfl⟩ | ⟨f, hf⟩
  swap
  · cases hf
  cases hv with
  | unaccepted hu =>
    obtain ⟨h₁, h₂, h₃⟩ := Dealt.unaccepted_cleanedUp (c := c) hu
    exact iff_of_true h₁ ⟨h₂, h₃⟩
  | unsent query reply hq hu =>
    obtain ⟨h₁, h₂⟩ := @Dealt.unsent_not c _ _ query _ hq hu
    exact iff_of_false h₁ fun h => h₂ h.1
  | @served q u st query reply hq hlen hu =>
    have hw : ∀ e ∈ u, Working e := hu.elim (·.working) (·.working)
    have hmodule := @served_closedOnce c q u st query reply hq hw
    have hdelivered := @delivered_served c q u st query reply hq hlen hw
    rcases hu with hk | hl
    · refine iff_of_true ⟨?_, fun _ _ _ => hmodule⟩ ⟨hdelivered, ?_⟩
      · rw [openAfter_served hq (hk.table [c.connfd]), openAfter_guards]
      · rw [optionFails_served hq]
        exact hk.options
    · refine iff_of_false (fun h => ?_) (fun h => h.2 ((optionFails_served hq).2 hl.options))
      -- the descriptor left behind is still there when the guards are done
      obtain ⟨fd, ht⟩ := hl.table
      have hp : (st.toList ++ c.connfd :: [fd]).Perm (fd :: (st.toList ++ [c.connfd])) := by
        have hmid : (st.toList ++ [c.connfd] ++ fd :: []).Perm (fd :: (st.toList ++ [c.connfd] ++ [])) :=
          List.perm_middle
        simpa using hmid
      obtain ⟨b, hb, hpb⟩ := openAfter_perm hp (openAfter_guards c st [fd])
      have hnil : b = [] := by
        have hd := h.descriptors
        rw [openAfter_served hq (ht [c.connfd]), hb] at hd
        exact Option.some.inj hd
      rw [hnil] at hpb
      exact List.not_perm_cons_nil hpb

end

/-- A packet to 1.2.3.4:80 with one byte. -/
def webQuery : ClientQuery := ⟨#v[1, 2, 3, 4, 0, 0, 0, 0, 0, 0, 0, 0, 0, 0, 0, 0], 80, .ofBlock [1]⟩

/-- A module that accepts every client and decodes every packet to `webQuery`, and sends that succeed on the descriptors
in `sent`. -/
def serving (sent : Nat → Bool) : Env Outcome := fun t call =>
  match call with
  | .sendn fd _ => sent fd
  | .serverDecode _ => some webQuery
  | .makeAuthReply _ => some (.ofBlock [1], false)
  | call => calm 6 t call

/-- The client's query and the module's answer. -/
def admitted : List Event :=
  [⟨.recvn 5 4, some zeroHeader⟩, ⟨.recvn 5 0, some zeroBody⟩,
    ⟨.makeAuthReply (.ofBlock []), some (.ofBlock [1], false)⟩]

/-- A packet of the client, up to the module. -/
def webPacket : List Event :=
  [⟨.select [5], some (true, false)⟩, ⟨.recvn 5 4, some zeroHeader⟩, ⟨.recvn 5 0, some zeroBody⟩,
    ⟨.serverDecode (.ofBlock []), some webQuery⟩]

def webDialled (addr : String) (port : UInt16) : List Event :=
  let rp := .v4 (Socks5.ip4 [127, 0, 0, 1])
  ⟨.getaddrinfo addr port, .ok [rp]⟩ :: (attached rp 6 ++ [⟨.freeaddrinfo, ()⟩])

theorem quickConnect_serving (addr : String) (port : UInt16) (t : List Event) :
    (quickConnect (serving (· == 5)) addr port : Session (Option Nat) _) ⟨none, t⟩ =
      .ok 6 ⟨none, t ++ webDialled addr port⟩ := by
  have hsplit : webDialled addr port = [⟨.getaddrinfo addr port, .ok [.v4 (Socks5.ip4 [127, 0, 0, 1])]⟩] ++
    ([⟨.socket (.v4 (Socks5.ip4 [127, 0, 0, 1])), some 6⟩] ++ ([⟨.setsockopt 6 .reuseAddr, true⟩] ++
      ([⟨.setsockopt 6 .reusePort, true⟩] ++ ([⟨.connect 6 (.v4 (Socks5.ip4 [127, 0, 0, 1])), true⟩] ++
        [⟨.freeaddrinfo, ()⟩])))) := rfl
  rw [hsplit]
  simp only [← List.append_assoc]
  rfl

/-- The packet is no DNS packet, so the destination is connected; it does not take the byte. -/
theorem connReadable_serving (t : List Event) :
    connReadable (serving (· == 5)) ⟨3333, 5⟩ ⟨none, t ++ [⟨.select [5], some (true, false)⟩]⟩ =
      .error (.raised "sendn failed.") ⟨some 6, t ++ webPacket ++ webDialled (destOf webQuery).1 (destOf webQuery).2 ++
        [⟨.sendn 6 [1], false⟩]⟩ := by
  have hdns : isDnsQuery webQuery = false := by decide
  have hrecv : ∀ t, (recvLengthAndPacket (serving (· == 5)) 5 : Session (Option Nat) _) ⟨none, t⟩ = .ok (.ofBlock [])
      ⟨none, t ++ [⟨.recvn 5 4, some zeroHeader⟩] ++ [⟨.recvn 5 0, some zeroBody⟩]⟩ := fun _ => rfl
  have hdecode : ∀ t, (perform (serving (· == 5)) (.serverDecode (.ofBlock [])) : Session (Option Nat) _) ⟨none, t⟩ =
      .ok (some webQuery) ⟨none, t ++ [⟨.serverDecode (.ofBlock []), some webQuery⟩]⟩ := fun _ => rfl
  have hhop : ∀ t, nextHop (serving (· == 5)) webQuery ⟨none, t⟩ =
      .ok 6 ⟨some 6, t ++ webDialled (destOf webQuery).1 (destOf webQuery).2⟩ := by
    intro t
    rw [nextHop, bind_of_ok (rfl : getStore _ = .ok none ⟨none, t⟩)]
    exact bind_of_ok (quickConnect_serving _ _ t)
  have hsend : ∀ t, sendnEx (serving (· == 5)) 6 [1] ⟨some 6, t⟩ =
      .error (.raised "sendn failed.") ⟨some 6, t ++ [⟨.sendn 6 [1], false⟩]⟩ := fun _ => rfl
  rw [connReadable, bind_of_ok (hrecv _), bind_of_ok (hdecode _), bind_of_ok (rfl : orThrow _ _ _ = .ok webQuery _), hdns,
    if_neg Bool.false_ne_true, passOn, bind_of_ok (hhop _)]
  refine (hsend _).trans ?_
  simp [webPacket]

/-- The exception passes both guards, and the destination that was made in this round is closed. -/
theorem dealConnection_serving :
    dealConnection (serving (· == 5)) ⟨3333, 5⟩ 1 ⟨none, []⟩ = .ok () ⟨some 6, admitted ++ sentPacket 5 (.ofBlock [1]) ++
      webPacket ++ webDialled (destOf webQuery).1 (destOf webQuery).2 ++ [⟨.sendn 6 [1], false⟩] ++
      [⟨.close 6, ()⟩] ++ [⟨.serverClose, ()⟩] ++ [⟨.close 5, ()⟩]⟩ := by
  have hauth : (doAuth (serving (· == 5)) 5 : Session (Option Nat) _) ⟨none, []⟩ =
      .ok true ⟨none, admitted ++ sentPacket 5 (.ofBlock [1])⟩ := rfl
  have hselect : (perform (serving (· == 5)) (.select (5 :: Option.toList none)) : Session (Option Nat) _)
      ⟨none, admitted ++ sentPacket 5 (.ofBlock [1])⟩ = .ok (some (true, false))
        ⟨none, admitted ++ sentPacket 5 (.ofBlock [1]) ++ [⟨.select [5], some (true, false)⟩]⟩ := rfl
  have hloop : exchange (serving (· == 5)) ⟨3333, 5⟩ 1 ⟨none, admitted ++ sentPacket 5 (.ofBlock [1])⟩ =
      .error (.raised "sendn failed.") ⟨some 6, admitted ++ sentPacket 5 (.ofBlock [1]) ++ webPacket ++
        webDialled (destOf webQuery).1 (destOf webQuery).2 ++ [⟨.sendn 6 [1], false⟩]⟩ := by
    rw [exchange, bind_of_ok (rfl : getStore _ = .ok none ⟨none, _⟩), bind_of_ok hselect]
    exact bind_of_error (connReadable_serving _)
  have hguards : dealConnectionImpl (serving (· == 5)) ⟨3333, 5⟩ 1 ⟨none, []⟩ =
      .error (.raised "sendn failed.") ⟨some 6, admitted ++ sentPacket 5 (.ofBlock [1]) ++ webPacket ++
        webDialled (destOf webQuery).1 (destOf webQuery).2 ++ [⟨.sendn 6 [1], false⟩] ++ [⟨.close 6, ()⟩] ++
        [⟨.serverClose, ()⟩]⟩ := by
    rw [dealConnectionImpl, bind_of_ok hauth, if_pos rfl, deferring, deferring, hloop]
    rfl
  rw [dealConnection, bind_of_ok (show catching _ _ _ = _ by rw [catching, hguards]; rfl)]
  rfl

theorem session_cleanup_connected :
    ∃ w, dealConnection (serving (· == 5)) ⟨3333, 5⟩ 1 ⟨none, []⟩ = .ok () w ∧ CleanedUp ⟨3333, 5⟩ w.trace := by
  refine ⟨_, dealConnection_serving, (session_cleanup_iff _ _ _ _ dealConnection_serving).2 ⟨?_, ?_⟩⟩
  · have hd := @delivered_served ⟨3333, 5⟩ (admitted.take 2)
      (webPacket ++ webDialled (destOf webQuery).1 (destOf webQuery).2 ++ [⟨.sendn 6 [1], false⟩]) (some 6) (.ofBlock [])
      (.ofBlock [1]) (by simp [admitted, Quiet]) (by decide) (by simp [webPacket, webDialled, attached, Working])
    simpa [served, closing, admitted] using hd
  · simp [OptionFails, admitted, sentPacket, webPacket, webDialled, attached]

/-- The client is accepted and gone before the reply: the module is never told. -/
theorem accepted_client_not_closed :
    ¬∀ (env : Env Outcome) (c : Conn) (fuel : Nat) (w : World Outcome (Option Nat)),
      dealConnection env c fuel ⟨none, []⟩ = .ok () w → CleanedUp c w.trace := by
  intro h
  have hrun : dealConnection (serving fun _ => false) ⟨3333, 5⟩ 1 ⟨none, []⟩ =
      .ok () ⟨none, admitted ++ [⟨.sendn 5 [0, 0, 0, 1], false⟩, ⟨.close 5, ()⟩]⟩ := rfl
  obtain ⟨pre, post, ht, -⟩ := (h _ _ _ _ hrun).module (.ofBlock []) (.ofBlock [1]) (by simp [admitted])
  have hm : (⟨.serverClose, ()⟩ : Event) ∈ pre ++ ⟨.serverClose, ()⟩ :: post := by simp
  rw [← ht] at hm
  simp [admitted] at hm

end SnakeSocks.Inbound
