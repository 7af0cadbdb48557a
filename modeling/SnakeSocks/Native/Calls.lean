import SnakeSocks.Lib.Effects
import SnakeSocks.Native.Address

/-!
# The calls of a native session

| here | there |
| --- | --- |
| `connectAny` | the common body of `outbound_tunnel::newConnection` (`tunnel.cc:53`) and `rlib::quick_connect` (`sio.hpp:239`) |
| `tryAddrs`   | their loop over the addresses of `getaddrinfo` |
| `recvnEx`, `sendnEx` | `recvn_ex` (`sio.hpp:597`), `sendn_ex` (`:602`), with any outcome |

What a session does to the outside is a trace of socket, resolver and module calls, and every one of them may succeed,
fail or throw as the environment likes. A `send` that fails returns -1: behind a `SIGPIPE` there is no session any more.
Nothing is said about memory here, so `free` is no call. A `close` cannot fail in a way the code notices, and neither can
the closing call of a module. What is written to the log is left out, with the exceptions of its format strings.
-/

namespace SnakeSocks.Native

open ByteLib CMem Effects
open Sio (Stop)
open Socks5 (AddrInfo)
open Tunnel (IpAddress)

inductive SockOpt where
  | reuseAddr
  | reusePort

/-- The two places where the SOCKS front end writes to its peer. -/
inductive Phase where
  | handshake
  | connect

inductive Call where
  /-- Not calls, but what the SOCKS front end did: these bytes were written to the peer, this request was unpacked. -/
  | wrote (phase : Phase) (bs : Bytes)
  | parsed (cmd atyp : UInt8) (remoteInfo : AddrInfo)
  | getaddrinfo (addr : String) (port : UInt16)
  | freeaddrinfo
  | socket (rp : IpAddress)
  | setsockopt (fd : Nat) (opt : SockOpt)
  | connect (fd : Nat) (rp : IpAddress)
  | close (fd : Nat)
  /-- The descriptors of the set. -/
  | select (rset : List Nat)
  | recvn (fd n : Nat)
  | sendn (fd : Nat) (bs : Bytes)
  | readall (fd : Nat)
  | getPeerName (fd : Nat)
  | resolveDomainOnce (domain : Bytes)
  | makeAuthQuery
  | onAuthReply (reply : BinarySafeString)
  | clientEncode (cq : ClientQuery)
  | clientDecode (data : BinarySafeString)
  | clientClose
  | makeAuthReply (query : BinarySafeString)
  | serverEncode (cq : ClientQuery)
  | serverDecode (data : BinarySafeString)
  | serverClose

/-- `none` is a failure, or an exception where the call returns its value otherwise. -/
abbrev Outcome : Call → Type
  | .wrote _ _ | .parsed _ _ _ | .freeaddrinfo | .close _ | .clientClose | .serverClose => Unit
  | .getaddrinfo _ _ => Except Int (List IpAddress)
  | .socket _ => Option Nat
  | .setsockopt _ _ | .connect _ _ | .sendn _ _ => Bool
  -- which of the two sockets of the session are readable
  | .select _ => Option (Bool × Bool)
  | .recvn _ n => Option { bs : Bytes // bs.length = n }
  | .readall _ => Option Bytes
  | .getPeerName _ => Option (String × UInt16)
  | .resolveDomainOnce _ => Option IpAddress
  | .makeAuthQuery | .clientEncode _ | .serverEncode _ => Option BinarySafeString
  | .onAuthReply _ => Option Bool
  | .clientDecode _ | .serverDecode _ => Option ClientQuery
  -- the reply and `authFailed`
  | .makeAuthReply _ => Option (BinarySafeString × Bool)

/-- Why a run does not come back: undefined behaviour, or it is still going on after the rounds it was given. -/
inductive Lost where
  | fault (f : Fault)
  | running

abbrev Event := Sigma Outcome

/-- Native code over a session: exceptions are `std::exception`s, by their text. -/
abbrev Session (σ : Type) := Eff Outcome σ String Lost

section
variable {σ α : Type} (env : Env Outcome)

/-- The value of a call, or its exception. -/
def orThrow (what : String) : Option α → Session σ α
  | some a => pure a
  | none => raise what

def recvnEx (fd n : Nat) : Session σ Bytes := do
  match ← perform env (.recvn fd n) with
  | some bs => return bs.1
  | none => raise "recvn failed."

def sendnEx (fd : Nat) (bs : Bytes) : Session σ Unit := do
  if ← perform env (.sendn fd bs) then return () else raise "sendn failed."

/-- Pure code that may throw or fault. -/
def ofExcept (x : Except Stop α) : Session σ α :=
  match x with
  | .ok a => pure a
  | .error (.exn what) => raise what
  | .error (.fault f) => lose (.fault f)

/-- The loop over the results of `getaddrinfo`; a socket whose `setsockopt` fails is left behind. -/
def tryAddrs : List IpAddress → Session σ (Option Nat)
  | [] => return none
  | rp :: rps => do
    match ← perform env (.socket rp) with
    | none => tryAddrs rps
    | some sockfd =>
      if !(← perform env (.setsockopt sockfd .reuseAddr)) then raise "setsockopt(SO_REUSEADDR) failed"
      else if !(← perform env (.setsockopt sockfd .reusePort)) then raise "setsockopt(SO_REUSEPORT) failed"
      else if ← perform env (.connect sockfd rp) then return some sockfd
      else
        let _ ← perform env (.close sockfd)
        tryAddrs rps

def connectAny (addr : String) (port : UInt16) : Session σ Nat := do
  match ← perform env (.getaddrinfo addr port) with
  | .error ret => raise ("getaddrinfo failed. Check network connection to " ++ addr ++ ":" ++ toString port ++
      "; returnval=" ++ toString ret ++ ", check `man getaddrinfo`'s return value.")
  | .ok paddr => deferring (perform env .freeaddrinfo) do
    match ← tryAddrs env paddr with
    | some sockfd => return sockfd
    | none => raise "Failed to connect to any of these addr."

end

/-! ## What a connect leaves behind -/

/-- Attempts that ended with the socket closed, or without one. -/
inductive Attempts : List Event → Prop
  | nil : Attempts []
  | noSocket {rp : IpAddress} {u : List Event} : Attempts u → Attempts (⟨.socket rp, none⟩ :: u)
  | refused {rp : IpAddress} {fd : Nat} {u : List Event} : Attempts u →
      Attempts (⟨.socket rp, some fd⟩ :: ⟨.setsockopt fd .reuseAddr, true⟩ :: ⟨.setsockopt fd .reusePort, true⟩ ::
        ⟨.connect fd rp, false⟩ :: ⟨.close fd, ()⟩ :: u)

/-- The calls of the attempt that succeeded. -/
def attached (rp : IpAddress) (fd : Nat) : List Event :=
  [⟨.socket rp, some fd⟩, ⟨.setsockopt fd .reuseAddr, true⟩, ⟨.setsockopt fd .reusePort, true⟩, ⟨.connect fd rp, true⟩]

/-- The calls of an attempt that threw: the socket was made and not closed. -/
inductive Stranded : List Event → Prop
  | reuseAddr (rp : IpAddress) (fd : Nat) : Stranded [⟨.socket rp, some fd⟩, ⟨.setsockopt fd .reuseAddr, false⟩]
  | reusePort (rp : IpAddress) (fd : Nat) :
      Stranded [⟨.socket rp, some fd⟩, ⟨.setsockopt fd .reuseAddr, true⟩, ⟨.setsockopt fd .reusePort, false⟩]

/-- How the loop over the addresses can end. -/
inductive Tried : Except (Halt String Lost) (Option Nat) → List Event → Prop
  | none {u : List Event} : Attempts u → Tried (.ok none) u
  | some {u : List Event} (rp : IpAddress) (fd : Nat) : Attempts u → Tried (.ok (some fd)) (u ++ attached rp fd)
  | thrown {u v : List Event} (what : String) : Attempts u → Stranded v → Tried (.error (.raised what)) (u ++ v)

theorem Tried.noSocket {r : Except (Halt String Lost) (Option Nat)} {rp : IpAddress} {u : List Event} (h : Tried r u) :
    Tried r (⟨.socket rp, Option.none⟩ :: u) := by
  cases h with
  | none hu => exact .none hu.noSocket
  | some rp' fd hu => exact .some rp' fd hu.noSocket
  | thrown what hu hv => exact .thrown what hu.noSocket hv

theorem Tried.refused {r : Except (Halt String Lost) (Option Nat)} {rp : IpAddress} {fd : Nat} {u : List Event}
    (h : Tried r u) :
    Tried r (⟨.socket rp, Option.some fd⟩ :: ⟨.setsockopt fd .reuseAddr, true⟩ :: ⟨.setsockopt fd .reusePort, true⟩ ::
      ⟨.connect fd rp, false⟩ :: ⟨.close fd, ()⟩ :: u) := by
  cases h with
  | none hu => exact .none hu.refused
  | some rp' fd' hu => exact .some rp' fd' hu.refused
  | thrown what hu hv => exact .thrown what hu.refused hv

section
variable {σ : Type} (env : Env Outcome)

/-- One attempt after the other, each by its five calls. -/
theorem tryAddrs_ends (rps : List IpAddress) (w : World Outcome σ) :
    Ends (tryAddrs env rps) w fun r s u => s = w.store ∧ Tried r u := by
  induction rps generalizing w with
  | nil => exact ends_pure ⟨rfl, .none .nil⟩
  | cons rp rps ih =>
    rw [tryAddrs]
    refine ends_perform_bind fun w₁ s₁ t₁ => ?_
    generalize env w.trace (.socket rp) = sock at t₁ ⊢
    cases sock with
    | none => exact (ih w₁).imp fun r s u h => ⟨h.1.trans s₁, h.2.noSocket⟩
    | some fd =>
      refine ends_perform_bind fun w₂ s₂ t₂ => ?_
      generalize env w₁.trace (.setsockopt fd .reuseAddr) = ok₁ at t₂ ⊢
      cases ok₁ with
      | false => exact ends_raise ⟨by rw [s₂, s₁], .thrown _ .nil (.reuseAddr rp fd)⟩
      | true =>
        refine ends_perform_bind fun w₃ s₃ t₃ => ?_
        generalize env w₂.trace (.setsockopt fd .reusePort) = ok₂ at t₃ ⊢
        cases ok₂ with
        | false => exact ends_raise ⟨by rw [s₃, s₂, s₁], .thrown _ .nil (.reusePort rp fd)⟩
        | true =>
          refine ends_perform_bind fun w₄ s₄ t₄ => ?_
          generalize env w₃.trace (.connect fd rp) = ok₃ at t₄ ⊢
          cases ok₃ with
          | true => exact ends_pure ⟨by rw [s₄, s₃, s₂, s₁], .some rp fd .nil⟩
          | false =>
            refine ends_perform_bind fun w₅ s₅ t₅ => ?_
            exact (ih w₅).imp fun r s u h => ⟨by rw [h.1, s₅, s₄, s₃, s₂, s₁], h.2.refused⟩

/-- How `connectAny` can end: the addresses are freed on every path behind the resolver. -/
inductive Dialled (addr : String) (port : UInt16) : Except (Halt String Lost) Nat → List Event → Prop
  | connected {u : List Event} (rps : List IpAddress) (rp : IpAddress) (fd : Nat) : Attempts u →
      Dialled addr port (.ok fd) (⟨.getaddrinfo addr port, .ok rps⟩ :: (u ++ attached rp fd ++ [⟨.freeaddrinfo, ()⟩]))
  | unresolved (what : String) (ret : Int) :
      Dialled addr port (.error (.raised what)) [⟨.getaddrinfo addr port, .error ret⟩]
  | refused {u : List Event} (what : String) (rps : List IpAddress) : Attempts u →
      Dialled addr port (.error (.raised what)) (⟨.getaddrinfo addr port, .ok rps⟩ :: (u ++ [⟨.freeaddrinfo, ()⟩]))
  | stranded {u v : List Event} (what : String) (rps : List IpAddress) : Attempts u → Stranded v →
      Dialled addr port (.error (.raised what))
        (⟨.getaddrinfo addr port, .ok rps⟩ :: (u ++ v ++ [⟨.freeaddrinfo, ()⟩]))

theorem connectAny_ends (addr : String) (port : UInt16) (w : World Outcome σ) :
    Ends (connectAny env addr port) w fun r s u => s = w.store ∧ Dialled addr port r u := by
  rw [connectAny]
  refine ends_perform_bind fun w₁ s₁ t₁ => ?_
  generalize env w.trace (.getaddrinfo addr port) = found at t₁ ⊢
  cases found with
  | error ret => exact ends_raise ⟨s₁, .unresolved _ ret⟩
  | ok rps =>
    -- the loop, then the choice between its result and the exception
    have hbody : Ends (do
        match ← tryAddrs env rps with
        | some sockfd => return sockfd
        | none => raise "Failed to connect to any of these addr.") w₁ fun r s u => s = w₁.store ∧
          ((∃ v rp fd, Attempts v ∧ u = v ++ attached rp fd ∧ r = .ok fd) ∨
            (∃ what, Attempts u ∧ r = .error (.raised what)) ∨
            ∃ v v' what, Attempts v ∧ Stranded v' ∧ u = v ++ v' ∧ r = .error (.raised what)) := by
      refine (tryAddrs_ends env rps w₁).bind (fun a w₂ u t₂ h => ?_) (fun e s u h => ?_)
      · obtain ⟨s₂, h⟩ := h
        cases h with
        | none hu => exact ends_raise ⟨s₂, .inr (.inl ⟨_, by simpa using hu, rfl⟩)⟩
        | some rp fd hu => exact ends_pure ⟨s₂, .inl ⟨_, rp, fd, hu, by simp, rfl⟩⟩
      · obtain ⟨s₂, h⟩ := h
        cases h with
        | thrown what hu hv => exact ⟨s₂, .inr (.inr ⟨_, _, what, hu, hv, rfl, rfl⟩)⟩
    refine hbody.deferring (fun a w₂ u t₂ h => ?_) (fun e w₂ u t₂ h => ?_) (fun f s u h => ?_)
    · refine ends_perform_bind fun w₃ s₃ t₃ => ends_pure ?_
      obtain ⟨s₂, ⟨v, rp, fd, hv, rfl, hr⟩ | ⟨what, -, hr⟩ | ⟨v, v', what, -, -, -, hr⟩⟩ := h
      · cases hr
        exact ⟨by rw [s₃, s₂, s₁], .connected rps rp _ hv⟩
      · cases hr
      · cases hr
    · refine ends_perform_bind fun w₃ s₃ t₃ => ends_raise ?_
      obtain ⟨s₂, ⟨v, rp, fd, -, -, hr⟩ | ⟨what, hu, hr⟩ | ⟨v, v', what, hv, hv', rfl, hr⟩⟩ := h
      · cases hr
      · exact ⟨by rw [s₃, s₂, s₁], .refused e rps hu⟩
      · exact ⟨by rw [s₃, s₂, s₁], .stranded e rps hv hv'⟩
    · obtain ⟨-, ⟨v, rp, fd, -, -, hr⟩ | ⟨what, -, hr⟩ | ⟨v, v', what, -, -, -, hr⟩⟩ := h
      · cases hr
      · cases hr
      · cases hr

end

/-! ## Calls that open, close and authenticate nothing -/

/-- A record of the SOCKS front end. -/
def Fronting (e : Event) : Prop :=
  match e.1 with
  | .wrote _ _ | .parsed _ _ _ => True
  | _ => False

/-- Neither a descriptor nor the module's connection changes hands. -/
def Quiet (e : Event) : Prop :=
  match e.1 with
  | .select _ | .recvn _ _ | .sendn _ _ | .readall _ | .getPeerName _ | .resolveDomainOnce _
  | .clientEncode _ | .clientDecode _ | .serverEncode _ | .serverDecode _ => True
  | _ => False

section
variable {σ α : Type} {env : Env Outcome} {p : Event → Prop}

theorem steady_orThrow (what : String) (x : Option α) : Steady p (orThrow what x : Session σ α) := by
  cases x with
  | none => exact steady_raise _
  | some a => exact steady_pure a

theorem steady_ofExcept (x : Except Stop α) : Steady p (ofExcept x : Session σ α) := by
  rcases x with (f | what) | a
  · exact steady_lose _
  · exact steady_raise _
  · exact steady_pure a

theorem steady_recvnEx (fd n : Nat) : Steady Quiet (recvnEx env fd n : Session σ Bytes) := by
  refine (steady_perform fun r => trivial).bind fun r => ?_
  cases r with
  | none => exact steady_raise _
  | some bs => exact steady_pure bs.1

theorem steady_sendnEx (fd : Nat) (bs : Bytes) : Steady Quiet (sendnEx env fd bs : Session σ Unit) := by
  refine (steady_perform fun r => trivial).bind fun r => ?_
  cases r with
  | false => exact steady_raise _
  | true => exact steady_pure ()

end

/-! ## Counting -/

def isClose (fd : Nat) (e : Event) : Bool :=
  match e.1 with
  | .close f => f == fd
  | _ => false

/-- Calls of a connect, other than a `connect` that succeeds. -/
def Dialling (e : Event) : Prop :=
  match e with
  | ⟨.connect _ _, ok⟩ => ok = false
  | ⟨.getaddrinfo _ _, _⟩ | ⟨.freeaddrinfo, _⟩ | ⟨.socket _, _⟩ | ⟨.setsockopt _ _, _⟩ | ⟨.close _, _⟩ => True
  | _ => False

section
variable {addr : String} {port : UInt16} {u v : List Event} {fd m : Nat}

theorem Quiet.countP_isClose (h : ∀ e ∈ u, Quiet e) (m : Nat) : u.countP (isClose m) = 0 := by
  rw [List.countP_eq_zero]
  intro e he
  obtain ⟨c, r⟩ := e
  have hq := h _ he
  cases c <;> first | exact Bool.false_ne_true | cases hq

theorem Fronting.countP_isClose (h : ∀ e ∈ u, Fronting e) (m : Nat) : u.countP (isClose m) = 0 := by
  rw [List.countP_eq_zero]
  intro e he
  obtain ⟨c, r⟩ := e
  have hq := h _ he
  cases c <;> first | exact Bool.false_ne_true | cases hq

theorem Attempts.dialling (h : Attempts u) : ∀ e ∈ u, Dialling e := by
  induction h with
  | nil => simp
  | noSocket _ ih => exact List.forall_mem_cons.2 ⟨trivial, ih⟩
  | refused _ ih =>
    iterate 3 refine List.forall_mem_cons.2 ⟨trivial, ?_⟩
    exact List.forall_mem_cons.2 ⟨rfl, List.forall_mem_cons.2 ⟨trivial, ih⟩⟩

theorem Stranded.dialling (h : Stranded v) : ∀ e ∈ v, Dialling e := by
  cases h with
  | reuseAddr rp fd => simp [Dialling]
  | reusePort rp fd => simp [Dialling]

/-- The resolver in front and `freeaddrinfo` behind are calls of the connect too. -/
theorem dialling_resolved {rps : Except Int (List IpAddress)} (h : ∀ e ∈ u, Dialling e) :
    ∀ e ∈ ⟨.getaddrinfo addr port, rps⟩ :: (u ++ [⟨.freeaddrinfo, ()⟩]), Dialling e :=
  List.forall_mem_cons.2 ⟨trivial, List.forall_mem_append.2 ⟨h, List.forall_mem_singleton.2 trivial⟩⟩

theorem countP_isClose_resolved {rps : Except Int (List IpAddress)} :
    List.countP (isClose m) (⟨.getaddrinfo addr port, rps⟩ :: (u ++ [⟨.freeaddrinfo, ()⟩])) = u.countP (isClose m) := by
  rw [List.countP_cons_of_neg Bool.false_ne_true, List.countP_append, List.countP_singleton]
  rfl

/-- A descriptor that was never handed out is never closed. -/
theorem Attempts.countP_isClose (h : Attempts u) (hs : ∀ rp, ⟨.socket rp, some m⟩ ∉ u) : u.countP (isClose m) = 0 := by
  induction h with
  | nil => rfl
  | noSocket _ ih =>
    rw [List.countP_cons_of_neg Bool.false_ne_true]
    exact ih fun rp hm => hs rp (List.mem_cons_of_mem _ hm)
  | @refused rp fd u _ ih =>
    have hne : fd ≠ m := by
      rintro rfl
      exact hs rp List.mem_cons_self
    iterate 4 rw [List.countP_cons_of_neg Bool.false_ne_true]
    rw [List.countP_cons_of_neg (by simp [isClose, hne])]
    refine ih fun rp hm => hs rp ?_
    iterate 5 refine List.mem_cons_of_mem _ ?_
    exact hm

theorem Stranded.countP_isClose (h : Stranded v) : v.countP (isClose m) = 0 := by
  cases h <;> rfl

/-- A connect that fails closes what it opened, or leaves it. -/
theorem Dialled.of_error {e : Halt String Lost} (h : Dialled addr port (.error e) u) :
    (∀ e ∈ u, Dialling e) ∧ ((∀ rp, ⟨.socket rp, some m⟩ ∉ u) → u.countP (isClose m) = 0) := by
  cases h with
  | unresolved what ret => exact ⟨List.forall_mem_singleton.2 trivial, fun _ => rfl⟩
  | refused what rps hu =>
    refine ⟨dialling_resolved hu.dialling, fun hs => ?_⟩
    rw [countP_isClose_resolved]
    exact hu.countP_isClose fun rp hm => hs rp (by simp [hm])
  | stranded what rps hu hv =>
    refine ⟨dialling_resolved (List.forall_mem_append.2 ⟨hu.dialling, hv.dialling⟩), fun hs => ?_⟩
    rw [countP_isClose_resolved, List.countP_append, hv.countP_isClose]
    exact hu.countP_isClose fun rp hm => hs rp (by simp [hm])

/-- A connect that succeeds ends with the socket it returns. -/
theorem Dialled.of_ok (h : Dialled addr port (.ok fd) u) :
    ∃ d rp, u = d ++ [⟨.connect fd rp, true⟩, ⟨.freeaddrinfo, ()⟩] ∧ (∀ e ∈ d, Dialling e) ∧
      ⟨.socket rp, some fd⟩ ∈ d ∧ ((∀ rp, ⟨.socket rp, some m⟩ ∉ d) → d.countP (isClose m) = 0) := by
  cases h with
  | @connected u rps rp fd hu =>
    refine ⟨⟨.getaddrinfo addr port, .ok rps⟩ :: (u ++ [⟨.socket rp, some fd⟩, ⟨.setsockopt fd .reuseAddr, true⟩,
      ⟨.setsockopt fd .reusePort, true⟩]), rp, by simp [attached], ?_, by simp, fun hs => ?_⟩
    · refine List.forall_mem_cons.2 ⟨trivial, List.forall_mem_append.2 ⟨hu.dialling, ?_⟩⟩
      iterate 2 refine List.forall_mem_cons.2 ⟨trivial, ?_⟩
      exact List.forall_mem_singleton.2 trivial
    · rw [List.countP_cons_of_neg Bool.false_ne_true, List.countP_append]
      exact hu.countP_isClose fun rp hm => hs rp (by simp [hm])

end

/-! ## An uneventful environment -/

/-- The header and the body of an empty packet. -/
def zeroHeader : { bs : Bytes // bs.length = 4 } := ⟨[0, 0, 0, 0], rfl⟩

def zeroBody : { bs : Bytes // bs.length = 0 } := ⟨[], rfl⟩

/-- One address and one descriptor for every connect, calls that succeed, the first socket of a session readable, peers
that send zeros or nothing, and a module that encodes and judges nothing. -/
def calm (fd : Nat) : Env Outcome := fun _ call =>
  match call with
  | .wrote _ _ | .parsed _ _ _ | .freeaddrinfo | .close _ | .clientClose | .serverClose => ()
  | .getaddrinfo _ _ => .ok [.v4 (Socks5.ip4 [127, 0, 0, 1])]
  | .socket _ => some fd
  | .setsockopt _ _ | .connect _ _ | .sendn _ _ => true
  | .select _ => some (true, false)
  | .recvn _ n => some ⟨List.replicate n 0, List.length_replicate⟩
  | .readall _ => some []
  | .getPeerName _ | .resolveDomainOnce _ | .onAuthReply _ | .clientDecode _ | .serverDecode _ | .makeAuthReply _ => none
  | .makeAuthQuery | .clientEncode _ | .serverEncode _ => some (.ofBlock [1])

end SnakeSocks.Native
