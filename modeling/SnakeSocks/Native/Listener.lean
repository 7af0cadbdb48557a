import SnakeSocks.Lib.Tenure
import SnakeSocks.Native.Calls

/-!
# The listening threads of `skcli` and `sksrv`

| here | there |
| --- | --- |
| `quickListen`, `quickAccept` | `rlib::quick_listen` (`sio.hpp:194`), `::quick_accept` (`:34`) |
| `inboundListen` | `inbound_tunnel::listen` (`tunnel.cc:272`) |
| `socks5Listen` | `Socks5Server::listen` (`socks5.cc:43`), POSIX |

Each of them makes a listening socket and gives every accepted connection away, to a task of the pool or to a thread of its
own. Any call may fail. The two differ behind an `accept` that fails: `sksrv` throws, `skcli` tries again.
-/

namespace SnakeSocks.Listener

open Effects Ledger Owned Tenure
open Native (SockOpt Lost)
open Tunnel (IpAddress)

inductive Call where
  | getaddrinfo (addr : String) (port : UInt16)
  | freeaddrinfo
  | socket (rp : IpAddress)
  | setsockopt (fd : Nat) (opt : SockOpt)
  | bind (fd : Nat) (rp : IpAddress)
  | close (fd : Nat)
  | listen (fd : Nat)
  | accept (fd : Nat)
  /-- `dealConnection` of this connection is on its way to another thread. -/
  | addTask (connfd : Nat)

abbrev Outcome : Call → Type
  | .getaddrinfo _ _ => Except Int (List IpAddress)
  | .freeaddrinfo | .close _ | .addTask _ => Unit
  | .socket _ | .accept _ => Option Nat
  | .setsockopt _ _ | .bind _ _ | .listen _ => Bool

abbrev Event := Sigma Outcome

abbrev Listening := Eff Outcome Unit String Lost

/-! ## The code -/

section
variable (env : Env Outcome)

/-- The loop over the results of `getaddrinfo`. -/
def tryBind : List IpAddress → Listening (Option Nat)
  | [] => return none
  | rp :: rps => do
    match ← perform env (.socket rp) with
    | none => tryBind rps
    | some listenfd =>
      if !(← perform env (.setsockopt listenfd .reuseAddr)) then raise "setsockopt(SO_REUSEADDR) failed"
      else if !(← perform env (.setsockopt listenfd .reusePort)) then raise "setsockopt(SO_REUSEPORT) failed"
      else if ← perform env (.bind listenfd rp) then return some listenfd
      else
        let _ ← perform env (.close listenfd)
        tryBind rps

/-- Up to `::listen`, in both functions. -/
def bindAny (addr : String) (port : UInt16) : Listening Nat := do
  match ← perform env (.getaddrinfo addr port) with
  | .error ret => raise ("Failed to getaddrinfo. returnval=" ++ toString ret ++ ", check `man getaddrinfo`'s return value.")
  | .ok psaddr =>
    match ← tryBind env psaddr with
    | none => raise ("Failed to bind " ++ addr ++ ":" ++ toString port ++ ".")
    | some listenfd => if ← perform env (.listen listenfd) then return listenfd else raise "listen failed."

/-- The addresses are freed only where the socket is returned. -/
def quickListen (addr : String) (port : UInt16) : Listening Nat := do
  let listenfd ← bindAny env addr port
  let _ ← perform env .freeaddrinfo
  return listenfd

def quickAccept (sock : Nat) : Listening Nat := do
  match ← perform env (.accept sock) with
  | none => raise "accept failed."
  | some res => return res

/-- The loop, for `fuel` connections. -/
def inboundLoop (listenfd : Nat) : Nat → Listening Unit
  | 0 => lose .running
  | fuel + 1 => do
    let connfd ← quickAccept env listenfd
    let _ ← perform env (.addTask connfd)
    inboundLoop listenfd fuel

def inboundListen (bindAddr : String) (bindPort : UInt16) (fuel : Nat) : Listening Unit := do
  let listenfd ← quickListen env bindAddr bindPort
  inboundLoop env listenfd fuel

/-- `if (connfd == -1) continue`. -/
def socks5Loop (listenfd : Nat) : Nat → Listening Unit
  | 0 => lose .running
  | fuel + 1 => do
    match ← perform env (.accept listenfd) with
    | none => socks5Loop listenfd fuel
    | some connfd =>
      let _ ← perform env (.addTask connfd)
      socks5Loop listenfd fuel

def socks5Listen (bindIp : String) (bindPort : UInt16) (fuel : Nat) : Listening Unit := do
  let listenfd ← bindAny env bindIp bindPort
  socks5Loop env listenfd fuel

end

/-! ## The table of descriptors -/

/-- What a call does to the open descriptors. -/
def fdDeal : Event → Deal Nat
  | ⟨.socket _, some fd⟩ | ⟨.accept _, some fd⟩ => .opens fd
  | ⟨.close fd, _⟩ => .closes fd
  | ⟨.addTask connfd, _⟩ => .gives connfd
  | _ => .keeps

/-- The descriptors a call names. -/
def fdUses : Event → List Nat
  | ⟨.setsockopt fd _, _⟩ | ⟨.bind fd _, _⟩ | ⟨.close fd, _⟩ | ⟨.listen fd, _⟩ | ⟨.accept fd, _⟩ | ⟨.addTask fd, _⟩ => [fd]
  | _ => []

/-- What is closed or given away is named. -/
theorem mem_fdUses {e : Event} {fd : Nat} (h : (fdDeal e).own = .closes fd) : fd ∈ fdUses e := by
  obtain ⟨call, r⟩ := e
  cases call with
  | close fd =>
    cases h
    exact List.mem_cons_self
  | addTask connfd =>
    cases h
    exact List.mem_cons_self
  | socket rp => cases r <;> cases h
  | accept listenfd => cases r <;> cases h
  | _ => cases h

abbrev Tends : List Nat → List Event → List Nat → Prop := Minds (fun e => (fdDeal e).own) fdUses

section
variable {env : Env Outcome} {a : List Nat} {fd listenfd : Nat}

theorem tends_socket (rp : IpAddress) (fd : Nat) : Tends a [⟨.socket rp, some fd⟩] (fd :: a) :=
  minds_opens rfl nofun

theorem tends_setsockopt (opt : SockOpt) (ok : Bool) : Tends (fd :: a) [⟨.setsockopt fd opt, ok⟩] (fd :: a) :=
  minds_keeps rfl (by simp [fdUses])

theorem tends_bind (rp : IpAddress) (ok : Bool) : Tends (fd :: a) [⟨.bind fd rp, ok⟩] (fd :: a) :=
  minds_keeps rfl (by simp [fdUses])

theorem tends_close : Tends (fd :: a) [⟨.close fd, ()⟩] a := minds_closes rfl (by simp [fdUses])

/-- A connection that is accepted and given away again. -/
theorem tends_addTask (connfd : Nat) : Tends (connfd :: a) [⟨.addTask connfd, ()⟩] a := minds_closes rfl (by simp [fdUses])

/-- One address after the other, each by its calls. -/
theorem tryBind_tends (rps : List IpAddress) (w : World Outcome Unit) :
    Spends Tends (tryBind env rps) w a fun r _ _ b => ∀ sock, r = .ok sock → b = sock.toList ++ a := by
  induction rps generalizing w with
  | nil =>
    refine spends_pure ?_
    rintro _ ⟨⟩
    rfl
  | cons rp rps ih =>
    refine spends_perform_bind fun sock => ?_
    cases sock with
    | none => exact ⟨a, minds_keeps rfl nofun, ih⟩
    | some fd =>
      refine ⟨fd :: a, tends_socket rp fd, fun w₁ => spends_perform_bind fun ok => ⟨_, tends_setsockopt _ ok, fun w₂ => ?_⟩⟩
      cases ok with
      | false => exact spends_raise nofun
      | true =>
        refine spends_perform_bind fun ok => ⟨_, tends_setsockopt _ ok, fun w₃ => ?_⟩
        cases ok with
        | false => exact spends_raise nofun
        | true =>
          refine spends_perform_bind fun ok => ⟨_, tends_bind rp ok, fun w₄ => ?_⟩
          cases ok with
          | false => exact spends_perform_bind fun _ => ⟨a, tends_close, ih⟩
          | true =>
            refine spends_pure ?_
            rintro _ ⟨⟩
            rfl

/-- What is there in the end is the listening socket. -/
theorem bindAny_tends (addr : String) (port : UInt16) (w : World Outcome Unit) :
    Spends Tends (bindAny env addr port) w a fun r _ _ b => ∀ listenfd, r = .ok listenfd → b = listenfd :: a := by
  refine spends_perform_bind fun found => ⟨a, minds_keeps rfl nofun, fun w₁ => ?_⟩
  cases found with
  | error ret => exact spends_raise nofun
  | ok psaddr =>
    refine Spends.bind (tryBind_tends psaddr w₁) (fun sock w₂ u b hb => ?_) fun e s u b _ => nofun
    rw [hb sock rfl]
    cases sock with
    | none => exact spends_raise nofun
    | some listenfd =>
      have hlisten : ∀ ok, Tends (listenfd :: a) [⟨.listen listenfd, ok⟩] (listenfd :: a) := fun ok =>
        minds_keeps rfl (by simp [fdUses])
      refine spends_perform_bind fun ok => ⟨_, hlisten ok, fun w₃ => ?_⟩
      cases ok with
      | false => exact spends_raise nofun
      | true =>
        refine spends_pure ?_
        rintro _ ⟨⟩
        rfl

theorem quickListen_tends (addr : String) (port : UInt16) (w : World Outcome Unit) :
    Spends Tends (quickListen env addr port) w a fun r _ _ b => ∀ listenfd, r = .ok listenfd → b = listenfd :: a := by
  refine Spends.bind (bindAny_tends addr port w) (fun listenfd w₁ u b hb => ?_) fun e s u b _ => nofun
  rw [hb listenfd rfl]
  refine spends_perform_bind fun _ => ⟨_, minds_keeps rfl nofun, fun w₂ => spends_pure ?_⟩
  rintro _ ⟨⟩
  rfl

/-- A round of either loop. -/
theorem accept_tends {f : Option Nat → Listening Unit} (w : World Outcome Unit)
    (hnone : ∀ w, Spends Tends (f none) w [listenfd] fun _ _ _ _ => True)
    (hsome : ∀ connfd w, Spends Tends (f (some connfd)) w [connfd, listenfd] fun _ _ _ _ => True) :
    Spends Tends (perform env (.accept listenfd) >>= f) w [listenfd] fun _ _ _ _ => True := by
  refine spends_perform_bind fun connfd => ?_
  cases connfd with
  | none => exact ⟨[listenfd], minds_keeps rfl (by simp [fdUses]), hnone⟩
  | some connfd => exact ⟨[connfd, listenfd], minds_opens rfl (by simp [fdUses]), hsome connfd⟩

theorem inboundLoop_tends (fuel : Nat) (w : World Outcome Unit) :
    Spends Tends (inboundLoop env listenfd fuel) w [listenfd] fun _ _ _ _ => True := by
  induction fuel generalizing w with
  | zero => exact spends_lose trivial
  | succ fuel ih =>
    rw [inboundLoop, quickAccept, bind_assoc]
    refine accept_tends w (fun w₁ => ?_) fun connfd w₁ => ?_
    · exact Spends.bind (Q := fun r _ _ _ => ∀ v, r ≠ .ok v) (spends_raise nofun) (fun v _ _ _ hv => absurd rfl (hv v))
        fun _ _ _ _ _ => trivial
    · change Spends Tends (perform env (.addTask connfd) >>= fun _ => inboundLoop env listenfd fuel) w₁ _ _
      exact spends_perform_bind fun _ => ⟨[listenfd], tends_addTask connfd, ih⟩

theorem socks5Loop_tends (fuel : Nat) (w : World Outcome Unit) :
    Spends Tends (socks5Loop env listenfd fuel) w [listenfd] fun _ _ _ _ => True := by
  induction fuel generalizing w with
  | zero => exact spends_lose trivial
  | succ fuel ih =>
    exact accept_tends w ih fun connfd w₁ => spends_perform_bind fun _ => ⟨[listenfd], tends_addTask connfd, ih⟩

/-- A listener begins with nothing. -/
theorem inboundListen_tends (bindAddr : String) (bindPort : UInt16) (fuel : Nat) (w : World Outcome Unit) :
    Spends Tends (inboundListen env bindAddr bindPort fuel) w [] fun _ _ _ _ => True := by
  refine Spends.bind (quickListen_tends bindAddr bindPort w) (fun listenfd w₁ u b hb => ?_) fun _ _ _ _ _ => trivial
  rw [hb listenfd rfl]
  exact inboundLoop_tends fuel w₁

theorem socks5Listen_tends (bindIp : String) (bindPort : UInt16) (fuel : Nat) (w : World Outcome Unit) :
    Spends Tends (socks5Listen env bindIp bindPort fuel) w [] fun _ _ _ _ => True := by
  refine Spends.bind (bindAny_tends bindIp bindPort w) (fun listenfd w₁ u b hb => ?_) fun _ _ _ _ _ => trivial
  rw [hb listenfd rfl]
  exact socks5Loop_tends fuel w₁

end

end SnakeSocks.Listener
