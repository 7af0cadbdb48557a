import SnakeSocks.Lib.Tenure
import SnakeSocks.Native.Inbound
import SnakeSocks.Native.Launch
import SnakeSocks.Native.Listener

/-!
# Sessions do not touch each other's sockets

`skcli` and `sksrv` deal with every connection in a thread of its own (`socks5.cc:80-89`, `tunnel.cc:279-287`), and the
descriptors of all of them are numbers of one process. A session that went on using a number behind its `close` would read
from or write to whatever the kernel gave that number next. No session does so, on any path: what it names in a call is open
by then, and is its own, either because it made it or because the listening thread accepted it and gave it away. Nothing is
said about what a session leaves open; it only costs a number.
-/

namespace SnakeSocks.Native

open ByteLib CMem Effects Ledger Owned Tenure
open Inbound (Conn fdChange)
open Sio (Sock Prog)
open Socks5 (AddrInfo)

/-- The descriptors a call names. The records of the SOCKS front end stand for its reads and writes of the accepted socket
`own`. -/
def fdUses (own : Nat) : Event → List Nat
  | ⟨.wrote _ _, _⟩ | ⟨.parsed _ _ _, _⟩ => [own]
  | ⟨.select rset, _⟩ => rset
  | ⟨.setsockopt fd _, _⟩ | ⟨.connect fd _, _⟩ | ⟨.close fd, _⟩ | ⟨.recvn fd _, _⟩ | ⟨.sendn fd _, _⟩ | ⟨.readall fd, _⟩
  | ⟨.getPeerName fd, _⟩ => [fd]
  | _ => []

/-- From the descriptors `a` to `b`, with care. -/
abbrev Tends (own : Nat) : List Nat → List Event → List Nat → Prop := Minds fdChange (fdUses own)

/-- Calls on the descriptors `a`. -/
abbrev On (own : Nat) (a : List Nat) : Event → Prop := Within fdChange (fdUses own) a

section
variable {own fd : Nat} {a : List Nat} {call : Call} {r : Outcome call}

theorem on_own (hc : fdChange ⟨call, r⟩ = .keeps) (hu : fdUses own ⟨call, r⟩ = [fd]) (h : fd ∈ a) : On own a ⟨call, r⟩ := by
  refine ⟨hc, fun x hx => ?_⟩
  rw [hu, List.mem_singleton] at hx
  rwa [hx]

theorem on_select {rset : List Nat} {ready : Option (Bool × Bool)} (h : ∀ x ∈ rset, x ∈ a) :
    On own a ⟨.select rset, ready⟩ := ⟨rfl, h⟩

theorem on_none (hc : fdChange ⟨call, r⟩ = .keeps) (hu : fdUses own ⟨call, r⟩ = []) : On own a ⟨call, r⟩ := by
  refine ⟨hc, fun x hx => ?_⟩
  rw [hu] at hx
  cases hx

end

/-! ## Connecting -/

section
variable {own : Nat} {a : List Nat} {u : List Event}

theorem tends_socket (rp : Tunnel.IpAddress) (fd : Nat) : Tends own a [⟨.socket rp, some fd⟩] (fd :: a) :=
  minds_opens rfl nofun

theorem tends_close (fd : Nat) : Tends own (fd :: a) [⟨.close fd, ()⟩] a :=
  minds_closes rfl fun x hx => by
    rw [List.mem_singleton.1 hx]
    exact List.mem_cons_self

theorem tends_attempts (h : Attempts u) : Tends own a u a := by
  induction h with
  | nil => exact Composes.nil a
  | noSocket _ ih => exact Composes.trans (minds_keeps rfl nofun) ih
  | @refused rp fd u _ ih =>
    have huse : ∀ e ∈ [⟨.setsockopt fd .reuseAddr, true⟩, ⟨.setsockopt fd .reusePort, true⟩, (⟨.connect fd rp, false⟩ : Event)],
        On own (fd :: a) e := by simp [Within, fdChange, fdUses]
    exact Composes.trans (tends_socket rp fd) (Composes.trans (minds_inert huse) (Composes.trans (tends_close fd) ih))

/-- The socket of an attempt that threw is forgotten. -/
theorem tends_stranded (h : Stranded u) : Tends own a u a := by
  cases h with
  | reuseAddr rp fd =>
    refine Composes.trans (tends_socket rp fd) (Minds.forget (minds_inert ?_))
    simp [fdChange, fdUses]
  | reusePort rp fd =>
    refine Composes.trans (tends_socket rp fd) (Minds.forget (minds_inert ?_))
    simp [fdChange, fdUses]

theorem tends_attached (rp : Tunnel.IpAddress) (fd : Nat) : Tends own a (attached rp fd) (fd :: a) := by
  refine Composes.trans (tends_socket rp fd) (minds_inert ?_)
  simp [fdChange, fdUses]

/-- What a session holds behind a connect. -/
def dialled (a : List Nat) : Except (Halt String Lost) Nat → List Nat
  | .ok fd => fd :: a
  | .error _ => a

/-- The resolver in front and `freeaddrinfo` behind name no descriptor. -/
theorem tends_resolved {addr : String} {port : UInt16} {rps : Except Int (List Tunnel.IpAddress)} {b : List Nat}
    (h : Tends own a u b) : Tends own a (⟨.getaddrinfo addr port, rps⟩ :: (u ++ [⟨.freeaddrinfo, ()⟩])) b :=
  Composes.trans (minds_keeps rfl nofun) (Composes.trans h (minds_keeps rfl nofun))

theorem tends_dialled {addr : String} {port : UInt16} {r : Except (Halt String Lost) Nat} (h : Dialled addr port r u) :
    Tends own a u (dialled a r) := by
  cases h with
  | connected rps rp fd ha => exact tends_resolved (Composes.trans (tends_attempts ha) (tends_attached rp fd))
  | unresolved what ret => exact minds_keeps rfl nofun
  | refused what rps ha => exact tends_resolved (tends_attempts ha)
  | stranded what rps ha hv => exact tends_resolved (Composes.trans (tends_attempts ha) (tends_stranded hv))

theorem connectAny_tends {σ : Type} {env : Env Outcome} (addr : String) (port : UInt16) (w : World Outcome σ) :
    Spends (Tends own) (connectAny env addr port) w a fun r s _ b => s = w.store ∧ b = dialled a r :=
  (connectAny_ends env addr port w).imp fun r _ _ h => ⟨dialled a r, ⟨h.1, rfl⟩, tends_dialled h.2⟩

end

/-! ## Calls on one socket -/

section
variable {σ : Type} {env : Env Outcome} {own fd : Nat} {a : List Nat}

theorem on_recvnEx (h : fd ∈ a) (n : Nat) : Steady (On own a) (recvnEx env fd n : Session σ Bytes) := by
  refine (steady_perform fun r => on_own rfl rfl h).bind fun r => ?_
  cases r with
  | none => exact steady_raise _
  | some bs => exact steady_pure bs.1

theorem on_sendnEx (h : fd ∈ a) (bs : Bytes) : Steady (On own a) (sendnEx env fd bs : Session σ Unit) := by
  refine (steady_perform fun r => on_own rfl rfl h).bind fun r => ?_
  cases r with
  | false => exact steady_raise _
  | true => exact steady_pure ()

end

end SnakeSocks.Native

/-! ## A session of `sksrv` -/

namespace SnakeSocks.Inbound

open ByteLib CMem Effects Ledger Owned Tenure Native
open Tunnel (isDnsQuery)

section
variable {σ : Type} {env : Env Outcome} {own fd : Nat} {a : List Nat} {c : Conn}

theorem on_recvLengthAndPacket (h : fd ∈ a) :
    Steady (On own a) (recvLengthAndPacket env fd : Session σ BinarySafeString) := by
  refine (on_recvnEx h 4).bind fun n => ?_
  split
  · exact steady_raise _
  · exact (on_recvnEx h _).bind fun data => steady_pure _

theorem on_sendLengthAndPacket (h : fd ∈ a) (dat : BinarySafeString) :
    Steady (On own a) (sendLengthAndPacket env fd dat : Session σ Unit) := by
  unfold sendLengthAndPacket
  split
  · exact steady_raise _
  · exact (on_sendnEx h _).bind fun _ => on_sendnEx h _

theorem on_doAuth (h : fd ∈ a) : Steady (On own a) (doAuth env fd : Session σ Bool) := by
  refine (on_recvLengthAndPacket h).bind fun authMsg => ?_
  refine (steady_perform fun r => on_none rfl rfl).bind fun r => ?_
  refine (steady_orThrow _ _).bind fun answer => ?_
  exact (on_sendLengthAndPacket h _).bind fun _ => steady_pure _

theorem on_refuse (h : c.connfd ∈ a) : Steady (On own a) (refuse env c) := by
  refine (steady_perform fun r => on_own rfl rfl h).bind fun r => ?_
  exact (steady_orThrow _ _).bind fun peername => steady_raise _

theorem on_answerDns (h : c.connfd ∈ a) (thisQuery : ClientQuery) :
    Steady (On own a) (answerDns env c thisQuery : Session σ Unit) := by
  have hdomain : Steady (On own a) (domainOf thisQuery : Session σ Bytes) := by
    unfold domainOf
    split
    · exact steady_pure _
    · exact steady_lose _
  refine hdomain.bind fun domain => ?_
  refine (steady_perform fun r => on_none rfl rfl).bind fun r => ?_
  refine (steady_orThrow _ _).bind fun ip => ?_
  refine (steady_perform fun r => on_none rfl rfl).bind fun r => ?_
  exact (steady_orThrow _ _).bind fun encoded => on_sendLengthAndPacket h encoded

theorem on_nextHopReadable (h : c.connfd ∈ a) (hfd : fd ∈ a) : Steady (On own a) (nextHopReadable env c fd) := by
  refine (steady_perform fun r => on_own rfl rfl hfd).bind fun r => ?_
  rcases r with _ | _ | ⟨b, bs⟩
  · exact steady_raise _
  · exact steady_pure _
  · refine (steady_perform fun r => on_none rfl rfl).bind fun r => ?_
    refine (steady_orThrow _ _).bind fun encoded => ?_
    exact (on_sendLengthAndPacket h encoded).bind fun _ => steady_pure _

end

/-- The descriptors of a session: the accepted one, and the destination's once it is there. -/
def holds (c : Conn) (st : Option Nat) : List Nat := st.toList ++ [c.connfd]

/-- A part of the session goes on with the descriptors of the session; a destination that is there stays. -/
def Goes {α : Type} (c : Conn) (x : Session (Option Nat) α) : Prop :=
  ∀ w, Spends (Tends c.connfd) x w (holds c w.store) fun _ s _ b => b = holds c s ∧ ∀ fd, w.store = some fd → s = some fd

section
variable {α β : Type} {env : Env Outcome} {c : Conn} {x : Session (Option Nat) α} {f : α → Session (Option Nat) β}

theorem connfd_mem (c : Conn) (st : Option Nat) : c.connfd ∈ holds c st := by simp [holds]

theorem Goes.of_steady (h : ∀ st, Steady (On c.connfd (holds c st)) x) : Goes c x := by
  intro w
  refine Spends.imp (spends_of_steady (h w.store) w) fun r s u b hb => ?_
  obtain ⟨rfl, rfl⟩ := hb
  exact ⟨rfl, fun fd hfd => hfd⟩

theorem Goes.bind (hx : Goes c x) (hf : ∀ v, Goes c (f v)) : Goes c (x >>= f) := by
  intro w
  refine Spends.bind (hx w) (fun v w' u b hb => ?_) fun e s u b hb => hb
  obtain ⟨rfl, hst⟩ := hb
  refine Spends.imp (hf v w') fun r s u' b hb => ⟨hb.1, fun fd hfd => ?_⟩
  exact hb.2 fd (hst fd hfd)

/-- The destination that `nextHop` returns is the one the session keeps. -/
theorem nextHop_tends (thisQuery : ClientQuery) (w : World Outcome (Option Nat)) :
    Spends (Tends c.connfd) (nextHop env thisQuery) w (holds c w.store) fun r s _ b =>
      b = holds c s ∧ (∀ fd, w.store = some fd → s = some fd) ∧ ∀ fd, r = .ok fd → s = some fd := by
  cases hst : w.store with
  | some fd =>
    have hrun : nextHop env thisQuery w = .ok fd w := by
      rw [nextHop, bind_of_ok (rfl : getStore w = _), hst]
      rfl
    refine (ends_of_ok hrun).2 ⟨[], by simp, _, ⟨rfl, ?_, ?_⟩, ?_⟩
    · exact fun fd' h => hst.trans h
    · rintro fd' ⟨⟩
      exact hst
    · rw [hst]
      exact Composes.nil _
  | none =>
    have hsame : nextHop env thisQuery w = (do
        let nextHopConn ← quickConnect env (Tunnel.destOf thisQuery).1 (Tunnel.destOf thisQuery).2
        setStore (some nextHopConn)
        return nextHopConn : Session (Option Nat) Nat) w := by
      rw [nextHop, bind_of_ok (rfl : getStore w = _), hst]
    refine Ends.congr ?_ hsame
    refine Spends.bind (M := Tends c.connfd) (connectAny_tends _ _ w) (fun fd w₁ u b hb => ?_) fun e s u b hb => ?_
    · obtain ⟨-, rfl⟩ := hb
      refine Spends.bind (spends_setStore (Q := fun r s u b => r = .ok () ∧ s = some fd ∧ b = dialled (holds c none) (.ok fd))
        ⟨rfl, rfl, rfl⟩) (fun _ w₂ u₂ b hb => ?_) fun e s u b hb => ?_
      · obtain ⟨-, hs, rfl⟩ := hb
        refine spends_pure ⟨?_, ?_, ?_⟩
        · rw [hs]
          rfl
        · intro fd' h
          cases h
        · rintro fd' ⟨⟩
          exact hs
      · cases hb.1
    · obtain ⟨rfl, rfl⟩ := hb
      refine ⟨by rw [hst, dialled], ?_, ?_⟩
      · intro fd h
        cases h
      · intro fd h
        cases h

theorem goes_connReadable : Goes c (connReadable env c) := by
  refine (Goes.of_steady fun st => on_recvLengthAndPacket (connfd_mem c st)).bind fun data => ?_
  refine (Goes.of_steady fun st => steady_perform fun r => on_none rfl rfl).bind fun r => ?_
  refine (Goes.of_steady fun st => steady_orThrow _ _).bind fun thisQuery => ?_
  split
  · exact .of_steady fun st => on_answerDns (connfd_mem c st) thisQuery
  · intro w
    refine Spends.bind (nextHop_tends thisQuery w) (fun fd w₁ u b hb => ?_) fun e s u b hb => ⟨hb.1, hb.2.1⟩
    obtain ⟨rfl, hstay, hfd⟩ := hb
    have hmem : fd ∈ holds c w₁.store := by simp [holds, hfd fd rfl]
    refine Spends.imp (spends_of_steady (on_sendnEx hmem _) w₁) fun r s u' b hb => ?_
    obtain ⟨rfl, rfl⟩ := hb
    exact ⟨rfl, hstay⟩

/-- Every round, and so the loop: the destination that was in `rset` is still there when it is read from. -/
theorem goes_exchange (fuel : Nat) : Goes c (exchange env c fuel) := by
  induction fuel with
  | zero => exact .of_steady fun st => steady_lose _
  | succ fuel ih =>
    intro w
    refine Spends.bind (spends_getStore (Q := fun r s _ b => r = .ok w.store ∧ s = w.store ∧ b = holds c w.store)
      ⟨rfl, rfl, rfl⟩) (fun inSet w₀ u₀ b hb => ?_) fun e s u b hb => by cases hb.1
    obtain ⟨hin, hs₀, rfl⟩ := hb
    cases hin
    rw [← hs₀]
    -- both descriptors of `rset` are the session's
    have hset : ∀ x ∈ c.connfd :: w₀.store.toList, x ∈ holds c w₀.store := by
      intro x hx
      rw [holds, List.mem_append, List.mem_singleton, or_comm]
      exact List.mem_cons.1 hx
    have hselect : Spends (Tends c.connfd)
        (perform env (.select (c.connfd :: w₀.store.toList)) : Session (Option Nat) (Option (Bool × Bool))) w₀
        (holds c w₀.store) fun _ s _ b => b = holds c s ∧ ∀ fd, w₀.store = some fd → s = some fd := by
      refine Spends.imp (spends_of_steady (steady_perform fun r => on_select hset) w₀) fun r s u b hb => ?_
      obtain ⟨rfl, rfl⟩ := hb
      exact ⟨rfl, fun fd h => h⟩
    refine Spends.bind hselect (fun r w₁ u₁ b hb => ?_) fun e s u b hb => hb
    obtain ⟨rfl, hst₁⟩ := hb
    rcases r with _ | ⟨conn, hop⟩
    · exact spends_raise ⟨rfl, hst₁⟩
    · have hconn : Goes c (if conn then connReadable env c else pure ()) := by
        split
        · exact goes_connReadable
        · exact .of_steady fun st => steady_pure _
      refine Spends.bind (hconn w₁) (fun _ w₂ u₂ b hb => ?_) fun e s u b hb => ⟨hb.1, fun fd h => hb.2 fd (hst₁ fd h)⟩
      obtain ⟨rfl, hst₂⟩ := hb
      have hstay : ∀ fd, w₀.store = some fd → w₂.store = some fd := fun fd h => hst₂ fd (hst₁ fd h)
      refine Spends.bind (spends_of_steady (a := holds c w₂.store) ?_ w₂) (fun up w₃ u₃ b hb => ?_) fun e s u b hb => ?_
      · split
        · next nextHopConn hw =>
          have hmem : nextHopConn ∈ holds c w₂.store := by simp [holds, hstay _ hw]
          exact on_nextHopReadable (connfd_mem c _) hmem
        · exact steady_pure _
      · obtain ⟨hs₃, rfl⟩ := hb
        cases up with
        | false =>
          refine spends_pure ⟨by rw [hs₃], fun fd h => ?_⟩
          rw [hs₃]
          exact hstay fd h
        | true =>
          rw [← hs₃]
          refine Spends.imp (ih w₃) fun r s u b hb => ⟨hb.1, fun fd h => ?_⟩
          exact hb.2 fd (hs₃ ▸ hstay fd h)
      · obtain ⟨rfl, rfl⟩ := hb
        exact ⟨rfl, hstay⟩

theorem closeNextHop_tends (w : World Outcome (Option Nat)) :
    Spends (Tends c.connfd) (closeNextHop env) w (holds c w.store) fun r _ _ b => r = .ok () ∧ b = [c.connfd] := by
  cases hst : w.store with
  | none =>
    have hrun : closeNextHop env w = .ok () w := by
      rw [closeNextHop, bind_of_ok (rfl : getStore w = _), hst]
      rfl
    exact (ends_of_ok hrun).2 ⟨[], by simp, _, ⟨rfl, rfl⟩, Composes.nil _⟩
  | some fd =>
    have hrun : closeNextHop env w = perform env (.close fd) w := by
      rw [closeNextHop, bind_of_ok (rfl : getStore w = _), hst]
    refine Ends.congr (ends_perform ?_) hrun
    exact ⟨[c.connfd], ⟨rfl, rfl⟩, tends_close fd⟩

/-- The two scope guards: the destination is closed, and the accepted socket is not. -/
theorem guarded_tends (fuel : Nat) (w : World Outcome (Option Nat)) :
    Spends (Tends c.connfd) (deferring (perform env .serverClose) (deferring (closeNextHop env) (exchange env c fuel))) w
      (holds c w.store) fun r _ _ b => (∀ f, r ≠ .error (.lost f)) → b = [c.connfd] := by
  have hinner : Spends (Tends c.connfd) (deferring (closeNextHop env) (exchange env c fuel)) w (holds c w.store)
      fun r _ _ b => (∀ f, r ≠ .error (.lost f)) → b = [c.connfd] := by
    refine Spends.guarded (goes_exchange fuel w) (fun r w₁ u b hr hb => ?_) fun f s u b hb hr => absurd rfl (hr f)
    obtain ⟨rfl, -⟩ := hb
    exact Spends.imp (closeNextHop_tends w₁) fun rc s u b hb => ⟨hb.1, fun _ => hb.2⟩
  refine Spends.guarded hinner (fun r w₁ u b hr hb => ?_) fun f s u b hb hr => absurd rfl (hr f)
  exact spends_perform ⟨b, ⟨rfl, hb⟩, minds_keeps rfl nofun⟩

theorem dealConnectionImpl_tends (fuel : Nat) (w : World Outcome (Option Nat)) (hst : w.store = none) :
    Spends (Tends c.connfd) (dealConnectionImpl env c fuel) w [c.connfd] fun r _ _ b =>
      (∀ f, r ≠ .error (.lost f)) → b = [c.connfd] := by
  have hauth : Steady (On c.connfd [c.connfd]) (doAuth env c.connfd : Session (Option Nat) Bool) :=
    on_doAuth List.mem_cons_self
  refine Spends.bind (spends_of_steady hauth w) (fun accepted w₁ u b hb => ?_) fun e s u b hb _ => hb.2
  obtain ⟨hs₁, rfl⟩ := hb
  cases accepted with
  | false => exact Spends.imp (spends_of_steady (on_refuse List.mem_cons_self) w₁) fun r s u b hb _ => hb.2
  | true =>
    have hnone : holds c w₁.store = [c.connfd] := by rw [hs₁, hst, holds, Option.toList_none, List.nil_append]
    have hrest : Spends (Tends c.connfd)
        (deferring (perform env .serverClose) (deferring (closeNextHop env) (exchange env c fuel))) w₁ (holds c w₁.store)
        fun r _ _ b => (∀ f, r ≠ .error (.lost f)) → b = [c.connfd] := guarded_tends fuel w₁
    rwa [hnone] at hrest

/-- A whole session begins with the accepted socket. -/
theorem dealConnection_tends (fuel : Nat) (w : World Outcome (Option Nat)) (hst : w.store = none) :
    Spends (Tends c.connfd) (dealConnection env c fuel) w [c.connfd] fun _ _ _ _ => True := by
  have hbody : Spends (Tends c.connfd) (catching (fun _ => pure ()) (dealConnectionImpl env c fuel)) w [c.connfd]
      fun r _ _ b => (∀ f, r ≠ .error (.lost f)) → b = [c.connfd] := by
    refine Spends.catching (dealConnectionImpl_tends fuel w hst) (fun _ _ _ _ h => h) (fun e w₁ u b hb => ?_)
      fun f s u b hb => hb
    exact spends_pure fun _ => hb nofun
  refine Spends.bind hbody (fun _ w₁ u b hb => ?_) fun _ _ _ _ _ => trivial
  rw [hb nofun]
  exact spends_perform ⟨[], trivial, tends_close c.connfd⟩

end

end SnakeSocks.Inbound

/-! ## A session of `skcli` -/

namespace SnakeSocks.Native

open ByteLib CMem Effects Ledger Owned Tenure
open Sio (Sock)
open Socks5 (AddrInfo)

section
variable {env : Env Outcome} {own fd : Nat} {a : List Nat} {c : Front}

theorem on_doAuth (h : fd ∈ a) : Steady (On own a) (doAuth env fd) := by
  refine (steady_perform fun r => on_none rfl rfl).bind fun r => ?_
  refine (steady_orThrow _ _).bind fun authdat => ?_
  have hsend : Steady (On own a) (sendAuthQuery env fd authdat) := by
    unfold sendAuthQuery
    split
    · exact steady_raise _
    · exact (on_sendnEx h _).bind fun _ => on_sendnEx h _
  have hrecv : Steady (On own a) (recvAuthReply env fd) := by
    refine (on_recvnEx h 4).bind fun replyLen => ?_
    split
    · exact steady_raise _
    · exact on_recvnEx h _
  refine hsend.bind fun _ => hrecv.bind fun rbuf => ?_
  exact (steady_perform fun r => on_none rfl rfl).bind fun r => steady_orThrow _ _

theorem on_sendEncoded (h : fd ∈ a) (payload : BinarySafeString) (addrTemplate : ClientQuery) :
    Steady (On own a) (sendEncoded env fd payload addrTemplate) := by
  refine (steady_perform fun r => on_none rfl rfl).bind fun r => ?_
  refine (steady_orThrow _ _).bind fun dat => ?_
  exact (on_sendnEx h _).bind fun _ => on_sendnEx h _

theorem on_dnsPkgs (h : fd ∈ a) (rawAddr : AddrInfo) : Steady (On own a) (dnsPkgs env fd rawAddr) := by
  unfold dnsPkgs
  split
  · exact steady_pure _
  · refine (on_sendEncoded h _ _).bind fun _ => ?_
    refine (on_recvnEx h 4).bind fun length => ?_
    refine (on_recvnEx h _).bind fun str => ?_
    refine (steady_perform fun r => on_none rfl rfl).bind fun r => ?_
    exact (steady_orThrow _ _).bind fun _ => steady_ofExcept _

theorem on_thisHopReadable (hc : c.mFd ∈ a) (h : fd ∈ a) (template : ClientQuery) :
    Steady (On own a) (thisHopReadable env c fd template) := by
  refine (steady_perform fun r => on_own rfl rfl hc).bind fun r => ?_
  rcases r with _ | _ | ⟨b, bs⟩
  · exact steady_raise _
  · exact steady_pure _
  · exact (on_sendEncoded h _ _).bind fun _ => steady_pure _

theorem on_nextHopReadable (hc : c.mFd ∈ a) (h : fd ∈ a) : Steady (On own a) (nextHopReadable env c fd) := by
  refine (on_recvnEx h 4).bind fun binLen => ?_
  split
  · exact steady_pure _
  · refine (steady_perform fun r => on_own rfl rfl h).bind fun r => ?_
    refine (steady_orThrow _ _).bind fun str => ?_
    refine (steady_perform fun r => on_none rfl rfl).bind fun r => ?_
    refine (steady_orThrow _ _).bind fun dat => ?_
    exact (on_sendnEx hc _).bind fun _ => steady_pure _

theorem on_passLoop (hc : c.mFd ∈ a) (h : fd ∈ a) (template : ClientQuery) (fuel : Nat) :
    Steady (On c.mFd a) (passLoop env c fd template fuel) := by
  induction fuel with
  | zero => exact steady_lose _
  | succ fuel ih =>
    have hset : ∀ x ∈ [c.mFd, fd], x ∈ a := List.forall_mem_cons.2 ⟨hc, List.forall_mem_singleton.2 h⟩
    refine (steady_perform fun r => on_select hset).bind fun r => ?_
    rcases r with _ | ⟨app, hop⟩
    · exact steady_raise _
    · have happ : Steady (On c.mFd a) (if app then thisHopReadable env c fd template else pure true) := by
        split
        · exact on_thisHopReadable hc h template
        · exact steady_pure _
      have hhop : Steady (On c.mFd a) (if hop then nextHopReadable env c fd else pure true) := by
        split
        · exact on_nextHopReadable hc h
        · exact steady_pure _
      refine happ.bind fun up => ?_
      cases up with
      | false => exact steady_pure _
      | true =>
        refine hhop.bind fun up => ?_
        cases up with
        | false => exact steady_pure _
        | true => exact ih

/-- The constructor: a tunnel socket whose authentication fails is forgotten. -/
theorem snakeConnection_tends (w : World Outcome Sock) :
    Spends (Tends own) (snakeConnection env c) w a fun r _ _ b => b = dialled a r := by
  refine Spends.bind (connectAny_tends _ _ w) (fun fd w₁ u b hb => ?_) fun e s u b hb => hb.2
  obtain ⟨-, rfl⟩ := hb
  have hauth : Steady (On own (dialled a (.ok fd))) (doAuth env fd) := on_doAuth List.mem_cons_self
  refine (hauth w₁).bind (fun ok w₂ u₂ t₂ hb => ?_) fun e s u₂ hb => ?_
  · cases ok with
    | true => exact ends_pure ⟨_, rfl, by simpa using minds_inert hb.2⟩
    | false =>
      refine ends_raise ⟨a, rfl, ?_⟩
      rw [List.append_nil]
      exact (minds_inert hb.2).forget
  · exact ⟨a, rfl, (minds_inert hb.2).forget⟩

/-- `if(connfd)`: descriptor 0 is forgotten. -/
theorem destroySnakeConnection_tends (w : World Outcome Sock) :
    Spends (Tends own) (destroySnakeConnection env fd) w (fd :: a) fun r _ _ b => r = .ok () ∧ b = a := by
  refine (destroySnakeConnection_ends fd w).imp fun r s u h => ?_
  obtain ⟨rfl, rfl⟩ := h
  have htold : Tends own (fd :: a) [⟨.clientClose, ()⟩] (fd :: a) := minds_keeps rfl nofun
  refine ⟨a, ⟨rfl, rfl⟩, ?_⟩
  rw [destroyed]
  split
  · exact Composes.trans htold (tends_close fd)
  · exact htold.forget

theorem withNextHop_tends (hc : c.mFd ∈ a) (rawAddr : AddrInfo) (fuel : Nat) (w : World Outcome Sock) :
    Spends (Tends c.mFd) (withNextHop env c rawAddr fuel) w a fun r _ _ b => (∀ f, r ≠ .error (.lost f)) → b = a := by
  refine Spends.bind (snakeConnection_tends w) (fun fd w₁ u b hb => ?_) fun e s u b hb _ => hb
  subst hb
  have hfd : fd ∈ dialled a (.ok fd) := List.mem_cons_self
  have hmem : c.mFd ∈ dialled a (.ok fd) := List.mem_cons_of_mem _ hc
  have hbody : Steady (On c.mFd (dialled a (.ok fd))) (do
      let resolvedAddr ← dnsPkgs env fd rawAddr
      passData env c fd resolvedAddr fuel) :=
    (on_dnsPkgs hfd rawAddr).bind fun resolvedAddr =>
      (steady_ofExcept _).bind fun template => on_passLoop hmem hfd template fuel
  refine Spends.guarded (spends_of_steady hbody w₁) (fun r w₂ u b hr hb => ?_) fun f s u b hb hr => absurd rfl (hr f)
  obtain ⟨-, rfl⟩ := hb
  exact Spends.imp (destroySnakeConnection_tends w₂) fun rc s u b hb => ⟨hb.1, fun _ => hb.2⟩

theorem launch_tends (junk : Nat → UInt8) (fuel : Nat) (w : World Outcome Sock) :
    Spends (Tends c.mFd) (launch env c junk fuel) w [c.mFd] fun r _ _ b => (∀ f, r ≠ .error (.lost f)) → b = [c.mFd] := by
  have hmem : c.mFd ∈ [c.mFd] := List.mem_cons_self
  have hhand : Only (On c.mFd [c.mFd]) (handshakePkgs env) := only_writing (fun bs => on_own rfl rfl hmem) _
  have hconn : Only (On c.mFd [c.mFd]) (connectPkgs env junk) :=
    only_connectPkgs (fun _ _ _ => on_own rfl rfl hmem) (fun _ => on_own rfl rfl hmem) junk
  have hbody : Spends (Tends c.mFd) (do
      handshakePkgs env
      let rawAddr ← connectPkgs env junk
      withNextHop env c rawAddr fuel) w [c.mFd] fun r _ _ b => (∀ f, r ≠ .error (.lost f)) → b = [c.mFd] := by
    refine Spends.bind (spends_of_only hhand w) (fun _ w₁ u b hb => ?_) fun e s u b hb _ => hb
    subst hb
    refine Spends.bind (spends_of_only hconn w₁) (fun rawAddr w₂ u b hb => ?_) fun e s u b hb _ => hb
    subst hb
    exact withNextHop_tends hmem rawAddr fuel w₂
  refine Spends.catching hbody (fun _ _ _ _ h => h) (fun e w₁ u b hb => ?_) fun f s u b hb => hb
  exact spends_pure fun _ => hb nofun

theorem dealConnection_tends (junk : Nat → UInt8) (fuel : Nat) (w : World Outcome Sock) :
    Spends (Tends c.mFd) (dealConnection env c junk fuel) w [c.mFd] fun _ _ _ _ => True := by
  refine Spends.guarded (launch_tends junk fuel w) (fun r w₁ u b hr hb => ?_) fun _ _ _ _ _ => trivial
  rw [hb hr]
  exact spends_perform ⟨[], ⟨rfl, trivial⟩, tends_close c.mFd⟩

end

/-! ## The process -/

/-- What a thread does with the descriptors of the process. -/
inductive Act where
  | listening (e : Listener.Event)
  /-- A session begins with a connection that the listening thread has given away. -/
  | given (connfd : Nat)
  | call (own : Nat) (e : Event)

def Act.deal : Act → Deal Nat
  | .listening e => Listener.fdDeal e
  | .given connfd => .takes connfd
  | .call _ e => .alone (Inbound.fdChange e)

def Act.uses : Act → List Nat
  | .listening e => Listener.fdUses e
  | .given _ => []
  | .call own e => fdUses own e

/-- The threads of `skcli` and `sksrv`, each with what happens to it. -/
inductive Thread where
  | inboundListener (env : Env Listener.Outcome) (bindAddr : String) (bindPort : UInt16) (fuel : Nat)
  | socks5Listener (env : Env Listener.Outcome) (bindIp : String) (bindPort : UInt16) (fuel : Nat)
  | inbound (env : Env Outcome) (c : Inbound.Conn) (fuel : Nat)
  | socks5 (env : Env Outcome) (c : Front) (junk : Nat → UInt8) (s : Sock) (fuel : Nat)

def Thread.acts : Thread → List Act
  | .inboundListener env bindAddr bindPort fuel =>
    (after (Listener.inboundListen env bindAddr bindPort fuel ⟨(), []⟩)).trace.map .listening
  | .socks5Listener env bindIp bindPort fuel =>
    (after (Listener.socks5Listen env bindIp bindPort fuel ⟨(), []⟩)).trace.map .listening
  | .inbound env c fuel => .given c.connfd ::
      (after (Inbound.dealConnection env c fuel ⟨none, []⟩)).trace.map (.call c.connfd)
  | .socks5 env c junk s fuel => .given c.mFd ::
      (after (dealConnection env c junk fuel ⟨s, []⟩)).trace.map (.call c.mFd)

/-- A thread that starts with nothing is careful. -/
abbrev ActsCarefully : List Act → Prop := Careful (fun x => x.deal.own) Act.uses []

theorem carefully_session {own : Nat} {t : List Event} {b : List Nat} (h : Tends own [own] t b) :
    ActsCarefully (.given own :: t.map (.call own)) := by
  have hgiven : ActsCarefully [.given own] := careful_singleton nofun
  refine hgiven.append ((h [own] (.refl _)).1.map (fun e => ?_) fun e => rfl)
  exact Deal.own_alone (Inbound.fdChange e)

theorem carefully_listening {t : List Listener.Event} {b : List Nat} (h : Listener.Tends [] t b) :
    ActsCarefully (t.map .listening) :=
  (h [] (.refl _)).1.map (fun _ => rfl) fun _ => rfl

theorem Thread.carefully (x : Thread) : ActsCarefully x.acts := by
  cases x with
  | inboundListener env bindAddr bindPort fuel =>
    have hrun : Spends Listener.Tends (Listener.inboundListen env bindAddr bindPort fuel) ⟨(), []⟩ [] fun _ _ _ _ => True :=
      Listener.inboundListen_tends bindAddr bindPort fuel _
    obtain ⟨b, -, h⟩ := hrun.run
    exact carefully_listening h
  | socks5Listener env bindIp bindPort fuel =>
    have hrun : Spends Listener.Tends (Listener.socks5Listen env bindIp bindPort fuel) ⟨(), []⟩ [] fun _ _ _ _ => True :=
      Listener.socks5Listen_tends bindIp bindPort fuel _
    obtain ⟨b, -, h⟩ := hrun.run
    exact carefully_listening h
  | inbound env c fuel =>
    have hrun : Spends (Tends c.connfd) (Inbound.dealConnection env c fuel) ⟨none, []⟩ [c.connfd] fun _ _ _ _ => True :=
      Inbound.dealConnection_tends fuel _ rfl
    obtain ⟨b, -, h⟩ := hrun.run
    exact carefully_session h
  | socks5 env c junk s fuel =>
    have hrun : Spends (Tends c.mFd) (dealConnection env c junk fuel) ⟨s, []⟩ [c.mFd] fun _ _ _ _ => True :=
      dealConnection_tends junk fuel _
    obtain ⟨b, -, h⟩ := hrun.run
    exact carefully_session h

/-- What is closed or given away is named. -/
theorem Act.mem_uses (x : Act) (fd : Nat) (h : x.deal.own = .closes fd) : fd ∈ x.uses := by
  cases x with
  | listening e => exact Listener.mem_fdUses h
  | given connfd => cases h
  | call own e =>
    rw [Act.deal, Deal.own_alone] at h
    obtain ⟨call, r⟩ := e
    cases call with
    | close fd =>
      cases h
      exact List.mem_cons_self
    | socket rp => cases r <;> cases h
    | _ => cases h

/-- Any number of threads, each with any outcomes of its calls, interleaved in any way and each cut off anywhere; the kernel
does not hand out a number that is open, and a connection that was given away is dealt with once. Then every descriptor that
a call names is open and with the thread that makes the call, and is no other thread's. -/
theorem sessions_isolated {n : Nat} (threads : Fin n → Thread) (t : List (Fin n × Act))
    (ht : ∀ i, ofParty t i <+: (threads i).acts) (hkernel : Fresh Act.deal t) (hgiven : Passed Act.deal t)
    (p s : List (Fin n × Act)) (i : Fin n) (x : Act) (hx : t = p ++ (i, x) :: s) (fd : Nat) (hfd : fd ∈ x.uses) :
    fd ∈ table Act.deal p ∧ fd ∈ heldBy Act.deal p i ∧ ∀ j, j ≠ i → fd ∉ heldBy Act.deal p j :=
  isolated hkernel hgiven Act.mem_uses (fun i => (threads i).carefully.of_prefix (ht i)) hx hfd

/-- A client that is gone before it authenticates. -/
def goneClient : Thread := .inbound (fun t call => match call with
  | .recvn _ _ => none
  | call => calm 7 t call) ⟨8080, 4⟩ 1

/-- Every call succeeds, and every connection gets descriptor 4. -/
def busyListener : Thread := .inboundListener (fun _ call => match call with
  | .getaddrinfo _ _ => .ok [.v4 (Socks5.ip4 [0, 0, 0, 0])]
  | .freeaddrinfo | .close _ | .addTask _ => ()
  | .socket _ => some 3
  | .accept _ => some 4
  | .setsockopt _ _ | .bind _ _ | .listen _ => true) "0.0.0.0" 8080 2

def goneRead : Act := .call 4 ⟨.recvn 4 4, none⟩

def listening : Fin 3 := ⟨0, by decide⟩

def earlier : Fin 3 := ⟨1, by decide⟩

def later : Fin 3 := ⟨2, by decide⟩

def acceptedOne : List (Fin 3 × Act) := [(listening, .listening ⟨.accept 3, some 4⟩), (listening, .listening ⟨.addTask 4, ()⟩)]

/-- Two sessions, one behind the other: the second is given the descriptor that the first has closed. -/
def reusedPast : List (Fin 3 × Act) :=
  (busyListener.acts.take 7).map (Prod.mk listening) ++ acceptedOne ++
    [(earlier, .given 4), (earlier, goneRead), (earlier, .call 4 ⟨.close 4, ()⟩)] ++ acceptedOne ++ [(later, .given 4)]

theorem sessions_isolated_reused : 4 ∈ table Act.deal reusedPast ∧ 4 ∈ heldBy Act.deal reusedPast later ∧
    ∀ j, j ≠ later → 4 ∉ heldBy Act.deal reusedPast j := by
  have hthree : ∀ i, i = listening ∨ i = earlier ∨ i = later := by decide
  have hparty : ∀ i, ofParty (reusedPast ++ [(later, goneRead)]) i <+:
      (if i = listening then busyListener else goneClient).acts := by
    intro i
    rcases hthree i with rfl | rfl | rfl
    · exact ⟨[], rfl⟩
    · exact ⟨[], rfl⟩
    · exact ⟨[.call 4 ⟨.close 4, ()⟩], rfl⟩
  have hkernel : Fresh Act.deal (reusedPast ++ [(later, goneRead)]) := by decide
  have hgiven : Passed Act.deal (reusedPast ++ [(later, goneRead)]) := by decide
  exact sessions_isolated (fun i => if i = listening then busyListener else goneClient) _ hparty hkernel hgiven reusedPast []
    later goneRead rfl 4 List.mem_cons_self

end SnakeSocks.Native
