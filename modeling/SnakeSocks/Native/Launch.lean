import SnakeSocks.Native.Calls

/-!
# One SOCKS connection of `skcli`, from the greeting to the last `close`

| here | there |
| --- | --- |
| `launch`, `dealConnection` | `Socks5Connection::launch` (`socks5.hpp:33`), `Socks5Server::dealConnection` (`socks5.cc:37`) with the destructor |
| `snakeConnection`, `destroySnakeConnection` | `SnakeConnection::SnakeConnection`, `::~SnakeConnection` (`connection.hpp:21-34`) |
| `newConnection`, `doAuth` | `outbound_tunnel::newConnection` (`tunnel.cc:53`), `::doAuth` (`:127`) |
| `dnsPkgs`, `passData` | `Socks5Connection::dns_pkgs` (`socks5.cc:266`), `::passData` (`:303`) |

The front end works on the bytes of its socket (`Native/Socks5.lean`); everything behind it is a call with an arbitrary
outcome (`Native/Calls.lean`). A C++ object is destroyed at the end of its scope only if its constructor returned: that
is where `deferring` stands. The POSIX branch of the source is modelled. A failing `send` returns -1, also where no
`MSG_NOSIGNAL` keeps `SIGPIPE` from ending `skcli`, and a call of `rlog` does not throw.
-/

namespace SnakeSocks.Native

open ByteLib CMem Effects
open Sio (Sock Prog Stop delivered takes)
open Socks5 (AddrInfo)
open NetLib (maxPacket)

/-- What a client connection is made for: the tunnel server's address and the accepted socket. -/
structure Front where
  serverAddr : String
  serverPort : UInt16
  mFd : Nat

/-! ## The code -/

section
variable {α : Type} (env : Env Outcome)

/-- Code on the accepted socket. -/
def onFd (x : Prog α) : Session Sock α := fun w =>
  match x w.store with
  | .ok a s => .ok a { w with store := s }
  | .error (.exn what) s => .error (.raised what) { w with store := s }
  | .error (.fault f) s => .error (.lost (.fault f)) { w with store := s }

/-- `onFd`, with a record of the bytes that went out. -/
def writing (phase : Phase) (x : Prog α) : Session Sock α := do
  let s ← getStore
  deferring (do
    let s' ← getStore
    perform env (.wrote phase (s'.sent.drop s.sent.length))) (onFd x)

def handshakePkgs : Session Sock Unit := writing env .handshake Socks5.handshakePkgs

/-- `Socks5.connectPkgs_eq` is the same function without the record. -/
def connectPkgs (junk : Nat → UInt8) : Session Sock AddrInfo := do
  let (buf, addrlen) ← onFd Socks5.recvRequest
  let (cmd, atyp, remoteInfo) ← onFd (Socks5.unpackConnectionPacket junk buf)
  let _ ← perform env (.parsed cmd atyp remoteInfo)
  writing env .connect (Socks5.replyRequest buf addrlen cmd remoteInfo)

def newConnection (c : Front) : Session Sock Nat := connectAny env c.serverAddr c.serverPort

/-- `doAuth`, the way to the server. -/
def sendAuthQuery (connfd : Nat) (authdat : BinarySafeString) : Session Sock Unit := do
  if authdat.length.toNat > maxPacket then raise "authQuery is too long(incorrect)" else
  sendnEx env connfd (beBytes 4 authdat.length.toNat)
  sendnEx env connfd authdat.bytes

/-- `doAuth`, the way back. -/
def recvAuthReply (connfd : Nat) : Session Sock Bytes := do
  let replyLen ← recvnEx env connfd 4
  if beNat replyLen > maxPacket then raise "authReply is too long(incorrect)" else
  recvnEx env connfd (beNat replyLen)

def doAuth (connfd : Nat) : Session Sock Bool := do
  let authdat ← orThrow "client_make_auth_query" (← perform env .makeAuthQuery)
  sendAuthQuery env connfd authdat
  let rbuf ← recvAuthReply env connfd
  orThrow "client_deal_auth_reply" (← perform env (.onAuthReply (.ofBlock rbuf)))

def snakeConnection (c : Front) : Session Sock Nat := do
  let connfd ← newConnection env c
  if ← doAuth env connfd then return connfd else raise "Auth failed."

/-- `if(connfd) close(connfd)`. -/
def destroySnakeConnection (connfd : Nat) : Session Sock Unit := do
  let _ ← perform env .clientClose
  if connfd ≠ 0 then perform env (.close connfd) else return ()

/-- `client_impl::encode` and the two sends. -/
def sendEncoded (connfd : Nat) (payload : BinarySafeString) (addrTemplate : ClientQuery) : Session Sock Unit := do
  let cq := if payload.length ≠ 0 then { addrTemplate with payload } else addrTemplate
  let dat ← orThrow "client_encode" (← perform env (.clientEncode cq))
  sendnEx env connfd (beBytes 4 dat.length.toNat)
  sendnEx env connfd dat.bytes

def dnsPkgs (connfd : Nat) (rawAddr : AddrInfo) : Session Sock AddrInfo := do
  if rawAddr.type ≠ .domain then return rawAddr else
  let pkg := rawAddr.makeDnsQueryBody
  sendEncoded env connfd pkg.payload pkg
  let length ← recvnEx env connfd 4
  let str ← recvnEx env connfd (beNat length)
  let dnsResponse ← orThrow "client_decode" (← perform env (.clientDecode (.ofBlock str)))
  ofExcept (Socks5.goodAddr rawAddr dnsResponse)

/-- `passData`, the application's socket is readable; `false` is `goto _close_conn`. -/
def thisHopReadable (c : Front) (connfd : Nat) (template : ClientQuery) : Session Sock Bool := do
  match ← perform env (.readall c.mFd) with
  | none => raise "read failed"
  | some [] => return false
  | some (b :: bs) =>
    sendEncoded env connfd (.ofBlock (b :: bs)) template
    return true

/-- `passData`, the tunnel is readable. -/
def nextHopReadable (c : Front) (connfd : Nat) : Session Sock Bool := do
  let binLen ← recvnEx env connfd 4
  if beNat binLen = 0 then return false else
  let str ← orThrow "RecvnAndFree failed." (← perform env (.recvn connfd (beNat binLen)))
  let decodedDat ← orThrow "client_decode" (← perform env (.clientDecode (.ofBlock str.1)))
  sendnEx env c.mFd decodedDat.payload.bytes
  return true

/-- The loop of `passData`, for `fuel` rounds. -/
def passLoop (c : Front) (connfd : Nat) (template : ClientQuery) : Nat → Session Sock Unit
  | 0 => lose .running
  | fuel + 1 => do
    match ← perform env (.select [c.mFd, connfd]) with
    | none => raise "Select failed"
    | some (app, hop) =>
      let up ← (if app then thisHopReadable env c connfd template else pure true)
      if !up then return () else
      let up ← (if hop then nextHopReadable env c connfd else pure true)
      if up then passLoop c connfd template fuel else return ()

def passData (c : Front) (connfd : Nat) (resolvedAddr : AddrInfo) (fuel : Nat) : Session Sock Unit := do
  let template ← ofExcept resolvedAddr.toQueryTemplate
  passLoop env c connfd template fuel

/-- The scope of `nextHop` in `launch` (`socks5.hpp:40-42`). -/
def withNextHop (c : Front) (rawAddr : AddrInfo) (fuel : Nat) : Session Sock Unit := do
  let nextHop ← snakeConnection env c
  deferring (destroySnakeConnection env nextHop) do
    let resolvedAddr ← dnsPkgs env nextHop rawAddr
    passData env c nextHop resolvedAddr fuel

def launch (c : Front) (junk : Nat → UInt8) (fuel : Nat) : Session Sock Unit :=
  catching (fun _ => pure ()) do
    handshakePkgs env
    let rawAddr ← connectPkgs env junk
    withNextHop env c rawAddr fuel

/-- The connection object lives as long as its `launch`. -/
def dealConnection (c : Front) (junk : Nat → UInt8) (fuel : Nat) : Session Sock Unit :=
  deferring (perform env (.close c.mFd)) (launch env c junk fuel)

end

/-! ## Which calls each part makes -/

section
variable {α : Type} {env : Env Outcome} {p : Event → Prop}

theorem only_onFd (x : Prog α) : Only p (onFd x) := by
  intro w
  cases hx : x w.store with
  | ok a s =>
    have h : onFd x w = .ok a { w with store := s } := by rw [onFd, hx]
    exact (ends_of_ok h).2 ⟨[], by simp, by simp⟩
  | error e s =>
    cases e with
    | exn what =>
      have h : onFd x w = .error (.raised what) { w with store := s } := by rw [onFd, hx]
      exact (ends_of_error h).2 ⟨[], by simp, by simp⟩
    | fault f =>
      have h : onFd x w = .error (.lost (.fault f)) { w with store := s } := by rw [onFd, hx]
      exact (ends_of_error h).2 ⟨[], by simp, by simp⟩

theorem only_writing {phase : Phase} (hp : ∀ bs, p ⟨.wrote phase bs, ()⟩) (x : Prog α) : Only p (writing env phase x) := by
  refine only_getStore.bind fun s => ?_
  refine Only.deferring ?_ (only_onFd x)
  exact only_getStore.bind fun s' => only_perform fun r => hp _

theorem only_connectPkgs (hp : ∀ cmd atyp a, p ⟨.parsed cmd atyp a, ()⟩) (hw : ∀ bs, p ⟨.wrote .connect bs, ()⟩)
    (junk : Nat → UInt8) : Only p (connectPkgs env junk) := by
  refine (only_onFd _).bind fun a => ?_
  refine (only_onFd _).bind fun b => ?_
  refine (only_perform fun r => hp _ _ _).bind fun r => ?_
  exact only_writing hw _

theorem steady_sendAuthQuery (connfd : Nat) (authdat : BinarySafeString) : Steady Quiet (sendAuthQuery env connfd authdat) := by
  unfold sendAuthQuery
  split
  · exact steady_raise _
  · exact (steady_sendnEx connfd _).bind fun _ => (steady_sendnEx connfd _)

theorem steady_recvAuthReply (connfd : Nat) : Steady Quiet (recvAuthReply env connfd) := by
  refine (steady_recvnEx connfd 4).bind fun replyLen => ?_
  split
  · exact steady_raise _
  · exact (steady_recvnEx connfd _)

theorem steady_sendEncoded (connfd : Nat) (payload : BinarySafeString) (addrTemplate : ClientQuery) :
    Steady Quiet (sendEncoded env connfd payload addrTemplate) := by
  refine (steady_perform fun r => trivial).bind fun r => ?_
  refine (steady_orThrow _ _).bind fun dat => ?_
  exact (steady_sendnEx connfd _).bind fun _ => (steady_sendnEx connfd _)

theorem steady_dnsPkgs (connfd : Nat) (rawAddr : AddrInfo) : Steady Quiet (dnsPkgs env connfd rawAddr) := by
  unfold dnsPkgs
  split
  · exact steady_pure _
  · refine (steady_sendEncoded connfd _ _).bind fun _ => ?_
    refine (steady_recvnEx connfd 4).bind fun length => ?_
    refine (steady_recvnEx connfd _).bind fun str => ?_
    refine (steady_perform fun r => trivial).bind fun r => ?_
    exact (steady_orThrow _ _).bind fun _ => (steady_ofExcept _)

theorem steady_thisHopReadable (c : Front) (connfd : Nat) (template : ClientQuery) :
    Steady Quiet (thisHopReadable env c connfd template) := by
  refine (steady_perform fun r => trivial).bind fun r => ?_
  rcases r with _ | _ | ⟨b, bs⟩
  · exact steady_raise _
  · exact steady_pure _
  · exact (steady_sendEncoded connfd _ _).bind fun _ => steady_pure _

theorem steady_nextHopReadable (c : Front) (connfd : Nat) : Steady Quiet (nextHopReadable env c connfd) := by
  refine (steady_recvnEx connfd 4).bind fun binLen => ?_
  split
  · exact steady_pure _
  · refine (steady_perform fun r => trivial).bind fun r => ?_
    refine (steady_orThrow _ _).bind fun str => ?_
    refine (steady_perform fun r => trivial).bind fun r => ?_
    refine (steady_orThrow _ _).bind fun dat => ?_
    exact (steady_sendnEx c.mFd _).bind fun _ => steady_pure _

/-- Every round of the loop, and so the loop. -/
theorem steady_passLoop (c : Front) (connfd : Nat) (template : ClientQuery) (fuel : Nat) :
    Steady Quiet (passLoop env c connfd template fuel) := by
  induction fuel with
  | zero => exact steady_lose _
  | succ fuel ih =>
    refine (steady_perform fun r => trivial).bind fun r => ?_
    rcases r with _ | ⟨app, hop⟩
    · exact steady_raise _
    · have happ : Steady Quiet (if app then thisHopReadable env c connfd template else pure true) := by
        split
        · exact steady_thisHopReadable c connfd template
        · exact steady_pure _
      have hhop : Steady Quiet (if hop then nextHopReadable env c connfd else pure true) := by
        split
        · exact steady_nextHopReadable c connfd
        · exact steady_pure _
      refine happ.bind fun up => ?_
      cases up with
      | false => exact steady_pure _
      | true =>
        refine hhop.bind fun up => ?_
        cases up with
        | false => exact steady_pure _
        | true => exact ih

theorem steady_passData (c : Front) (connfd : Nat) (resolvedAddr : AddrInfo) (fuel : Nat) :
    Steady Quiet (passData env c connfd resolvedAddr fuel) :=
  (steady_ofExcept _).bind fun template => steady_passLoop c connfd template fuel

end

/-! ## The shape of a run -/

/-- How the exchange behind `client_make_auth_query` ends, by the last call of it. -/
inductive Authed : Except (Halt String Lost) Bool → List Event → Prop
  | accepted (reply : BinarySafeString) : Authed (.ok true) [⟨.onAuthReply reply, some true⟩]
  | refused (reply : BinarySafeString) : Authed (.ok false) [⟨.onAuthReply reply, some false⟩]
  | thrown (e : Halt String Lost) (reply : BinarySafeString) : Authed (.error e) [⟨.onAuthReply reply, none⟩]
  | stopped (e : Halt String Lost) : Authed (.error e) []

/-- How the constructor of `SnakeConnection` ends. -/
inductive Built (c : Front) : Except (Halt String Lost) Nat → List Event → Prop
  | undialled {e : Halt String Lost} {u : List Event} : Dialled c.serverAddr c.serverPort (.error e) u →
      Built c (.error e) u
  | unauthorised {fd : Nat} {r : Except (Halt String Lost) Bool} {u q v : List Event} (e : Halt String Lost)
      (a : Option BinarySafeString) : Dialled c.serverAddr c.serverPort (.ok fd) u → (∀ e ∈ q, Quiet e) →
      Authed r v → r ≠ .ok true → Built c (.error e) (u ++ ⟨.makeAuthQuery, a⟩ :: (q ++ v))
  | connected {fd : Nat} {u q : List Event} (a : Option BinarySafeString) (reply : BinarySafeString) :
      Dialled c.serverAddr c.serverPort (.ok fd) u → (∀ e ∈ q, Quiet e) →
      Built c (.ok fd) (u ++ ⟨.makeAuthQuery, a⟩ :: (q ++ [⟨.onAuthReply reply, some true⟩]))

/-- The calls of the destructor. -/
def destroyed (connfd : Nat) : List Event :=
  ⟨.clientClose, ()⟩ :: if connfd ≠ 0 then [⟨.close connfd, ()⟩] else []

/-- How `launch` ends behind the front end: nothing was built, the constructor failed, or the object was used and
destroyed. -/
inductive Launched (c : Front) : Except (Halt String Lost) Unit → List Event → Prop
  | early : Launched c (.ok ()) []
  | unbuilt {e : Halt String Lost} {u : List Event} : Built c (.error e) u → Launched c (.ok ()) u
  | used {fd : Nat} {u q : List Event} : Built c (.ok fd) u → (∀ e ∈ q, Quiet e) →
      Launched c (.ok ()) (u ++ q ++ destroyed fd)
  | lost (f : Lost) (u : List Event) : Launched c (.error (.lost f)) u

section
variable {env : Env Outcome}

theorem doAuth_ends (connfd : Nat) (w : World Outcome Sock) :
    Ends (doAuth env connfd) w fun r _ u =>
      ∃ a q v, u = ⟨.makeAuthQuery, a⟩ :: (q ++ v) ∧ (∀ e ∈ q, Quiet e) ∧ Authed r v := by
  refine ends_perform_bind fun w₁ s₁ t₁ => ?_
  generalize env w.trace .makeAuthQuery = a at t₁ ⊢
  -- everything up to the last call is quiet
  have hrest : Ends (do
      let authdat ← orThrow "client_make_auth_query" a
      sendAuthQuery env connfd authdat
      let rbuf ← recvAuthReply env connfd
      orThrow "client_deal_auth_reply" (← perform env (.onAuthReply (.ofBlock rbuf)))) w₁ (After Quiet Authed) := by
    refine (steady_orThrow _ a).only.bind_after (fun authdat w₂ => ?_) .stopped
    refine (steady_sendAuthQuery connfd authdat).only.bind_after (fun _ w₃ => ?_) .stopped
    refine (steady_recvAuthReply connfd).only.bind_after (fun rbuf w₄ => ?_) .stopped
    refine ends_perform_bind fun w₅ s₅ t₅ => ?_
    generalize env w₄.trace (.onAuthReply (.ofBlock rbuf)) = ok at t₅ ⊢
    match ok with
    | none => exact ends_raise (after_nil (.thrown _ _))
    | some false => exact ends_pure (after_nil (.refused _))
    | some true => exact ends_pure (after_nil (.accepted _))
  refine hrest.imp fun r s u h => ?_
  obtain ⟨q, v, rfl, hq, hv⟩ := h
  exact ⟨a, q, v, rfl, hq, hv⟩

theorem snakeConnection_ends (c : Front) (w : World Outcome Sock) :
    Ends (snakeConnection env c) w fun r _ u => Built c r u := by
  refine (connectAny_ends env c.serverAddr c.serverPort w).bind (fun fd w₁ u t₁ h => ?_) (fun e s u h => .undialled h.2)
  obtain ⟨-, hd⟩ := h
  refine (doAuth_ends fd w₁).bind (fun ok w₂ u' t₂ h => ?_) (fun e s u' h => ?_)
  · obtain ⟨a, q, v, rfl, hq, hv⟩ := h
    cases hv with
    | accepted reply => exact ends_pure (by simpa using .connected a reply hd hq)
    | refused reply => exact ends_raise (by simpa using .unauthorised _ a hd hq (.refused reply) (by simp))
  · obtain ⟨a, q, v, rfl, hq, hv⟩ := h
    exact .unauthorised e a hd hq hv (by simp)

theorem destroySnakeConnection_ends (connfd : Nat) (w : World Outcome Sock) :
    Ends (destroySnakeConnection env connfd) w fun r _ u => r = .ok () ∧ u = destroyed connfd := by
  refine ends_perform_bind fun w₁ s₁ t₁ => ?_
  unfold destroyed
  split
  · exact ends_perform ⟨rfl, rfl⟩
  · exact ends_pure ⟨rfl, rfl⟩

/-- The use of the object and its destruction, after a completed constructor. -/
theorem used_ends (c : Front) (fd : Nat) (rawAddr : AddrInfo) (fuel : Nat) (w : World Outcome Sock) :
    Ends (deferring (destroySnakeConnection env fd) (do
      let resolvedAddr ← dnsPkgs env fd rawAddr
      passData env c fd resolvedAddr fuel)) w fun r _ v =>
        (∃ q, (∀ e ∈ q, Quiet e) ∧ v = q ++ destroyed fd ∧ (r = .ok () ∨ ∃ what, r = .error (.raised what))) ∨
          ∃ f, r = .error (.lost f) := by
  have hbody : Only Quiet (do
      let resolvedAddr ← dnsPkgs env fd rawAddr
      passData env c fd resolvedAddr fuel) :=
    (steady_dnsPkgs fd rawAddr).only.bind fun a => (steady_passData c fd a fuel).only
  refine (hbody w).deferring (fun a w₁ q t₁ hq => ?_) (fun e w₁ q t₁ hq => ?_) (fun f s q hq => .inr ⟨f, rfl⟩)
  · refine (destroySnakeConnection_ends fd w₁).bind (fun _ w₂ v t₂ h => ends_pure ?_) (fun e s v h => by simp at h)
    exact .inl ⟨q, hq, by simp [h.2], .inl rfl⟩
  · refine (destroySnakeConnection_ends fd w₁).bind (fun _ w₂ v t₂ h => ends_raise ?_) (fun e s v h => by simp at h)
    exact .inl ⟨q, hq, by simp [h.2], .inr ⟨e, rfl⟩⟩

/-- What `launch` makes of the end of its `try` block. -/
def Caught (c : Front) : Except (Halt String Lost) Unit → List Event → Prop
  | .ok (), u => Launched c (.ok ()) u
  | .error (.raised _), u => Launched c (.ok ()) u
  | .error (.lost _), _ => True

theorem caught_nil (c : Front) (e : Halt String Lost) : Caught c (.error e) [] := by
  cases e with
  | raised what => exact .early
  | lost f => trivial

theorem launch_ends (c : Front) (junk : Nat → UInt8) (fuel : Nat) (w : World Outcome Sock) :
    Ends (launch env c junk fuel) w (After Fronting (Launched c)) := by
  have hbody : Ends (do
      handshakePkgs env
      let rawAddr ← connectPkgs env junk
      withNextHop env c rawAddr fuel) w (After Fronting (Caught c)) := by
    refine (only_writing (fun _ => trivial) _).bind_after (fun _ w₁ => ?_) (caught_nil c)
    refine (only_connectPkgs (fun _ _ _ => trivial) (fun _ => trivial) junk).bind_after (fun rawAddr w₂ => ?_) (caught_nil c)
    refine (snakeConnection_ends c w₂).bind (fun fd w₃ u t₃ hb => ?_) (fun e s u hb => after_nil ?_)
    · refine (used_ends c fd rawAddr fuel w₃).imp fun r s v h => after_nil ?_
      rcases h with ⟨q, hq, rfl, rfl | ⟨what, rfl⟩⟩ | ⟨f, rfl⟩
      · simpa [Caught] using Launched.used hb hq
      · simpa [Caught] using Launched.used hb hq
      · trivial
    · cases e with
      | raised what => exact .unbuilt hb
      | lost f => trivial
  refine hbody.catching (fun a s u h => ?_) (fun e w₁ u t₁ h => ends_pure ?_) (fun f s u h => ?_)
  · obtain ⟨q, v, rfl, hq, hv⟩ := h
    exact ⟨q, v, rfl, hq, hv⟩
  · obtain ⟨q, v, rfl, hq, hv⟩ := h
    exact ⟨q, v, by simp, hq, hv⟩
  · exact ⟨[], u, rfl, by simp, .lost f u⟩

/-- The accepted socket is closed behind everything else. -/
theorem dealConnection_ends (c : Front) (junk : Nat → UInt8) (fuel : Nat) (w : World Outcome Sock) :
    Ends (dealConnection env c junk fuel) w fun r _ u =>
      (∃ q v, r = .ok () ∧ (∀ e ∈ q, Fronting e) ∧ Launched c (.ok ()) v ∧ u = q ++ v ++ [⟨.close c.mFd, ()⟩]) ∨
        ∃ f, r = .error (.lost f) := by
  refine (launch_ends c junk fuel w).deferring (fun a w₁ u t₁ h => ?_) (fun e w₁ u t₁ h => ?_)
    (fun f s u h => .inr ⟨f, rfl⟩)
  · obtain ⟨q, v, rfl, hq, hv⟩ := h
    refine ends_perform_bind fun w₂ s₂ t₂ => ends_pure ?_
    exact .inl ⟨q, v, rfl, hq, hv, rfl⟩
  · obtain ⟨q, v, -, -, hv⟩ := h
    cases hv

end

/-! ## Running the front end -/

/-- How an early end of the front end looks to the session. -/
def haltOf : Stop → Halt String Lost
  | .exn what => .raised what
  | .fault f => .lost (.fault f)

section
variable {α : Type} {env : Env Outcome} {x : Prog α} {w : World Outcome Sock} {s : Sock} {bs : Bytes}

theorem onFd_of_ok {a : α} (h : x w.store = .ok a s) : onFd x w = .ok a ⟨s, w.trace⟩ := by
  rw [onFd, h]

theorem onFd_of_error {e : Stop} (h : x w.store = .error e s) : onFd x w = .error (haltOf e) ⟨s, w.trace⟩ := by
  rw [onFd, h]
  cases e <;> rfl

theorem writing_of_ok {phase : Phase} {a : α} (h : x w.store = .ok a s) (hs : s.sent = w.store.sent ++ bs) :
    writing env phase x w = .ok a ⟨s, w.trace ++ [⟨.wrote phase bs, ()⟩]⟩ := by
  have hb : s.sent.drop w.store.sent.length = bs := by rw [hs, List.drop_left]
  rw [← hb, writing, bind_of_ok (rfl : getStore w = _), deferring, onFd_of_ok h]
  rfl

theorem writing_of_exn {phase : Phase} {what : String} (h : x w.store = .error (.exn what) s)
    (hs : s.sent = w.store.sent ++ bs) :
    writing env phase x w = .error (.raised what) ⟨s, w.trace ++ [⟨.wrote phase bs, ()⟩]⟩ := by
  have hb : s.sent.drop w.store.sent.length = bs := by rw [hs, List.drop_left]
  rw [← hb, writing, bind_of_ok (rfl : getStore w = _), deferring, onFd_of_error h]
  rfl

/-- A complete greeting whose reply can be sent. -/
theorem handshakePkgs_ok {d : Bytes} (hd : delivered w.store.inp = d) (h : Socks5.GreetingComplete d)
    (ht : takes w.store.outp 2 = true) :
    let reply : Bytes := [5, if 0 ∈ slice d 2 (d.getD 1 0).toNat then 0 else 255]
    ∃ s', delivered s'.inp = d.drop (2 + (d.getD 1 0).toNat) ∧ Sio.sendn w.store.outp reply = (reply, some s'.outp) ∧
      handshakePkgs env w = .ok () ⟨s', w.trace ++ [⟨.wrote .handshake reply, ()⟩]⟩ := by
  intro reply
  obtain ⟨s₁, d₁, o₁, t₁, e₁⟩ := Socks5.handshakePkgs_complete hd h
  obtain ⟨rest, hr⟩ := Sio.sendn_ok w.store.outp reply ht
  have e₂ : Sio.sendnEx reply s₁ = .ok () { s₁ with outp := rest, sent := s₁.sent ++ reply } := by
    rw [Sio.sendnEx, o₁, hr]
  exact ⟨{ s₁ with outp := rest, sent := s₁.sent ++ reply }, d₁, hr, writing_of_ok (e₁.trans e₂) (by rw [t₁])⟩

/-- A complete greeting whose reply cannot be sent: at most one byte of it went out. -/
theorem handshakePkgs_unsent {d : Bytes} (hd : delivered w.store.inp = d) (h : Socks5.GreetingComplete d)
    (ht : takes w.store.outp 2 = false) :
    ∃ s' bs, bs.length < 2 ∧
      handshakePkgs env w = .error (.raised "sendn failed.") ⟨s', w.trace ++ [⟨.wrote .handshake bs, ()⟩]⟩ := by
  obtain ⟨s₁, d₁, o₁, t₁, e₁⟩ := Socks5.handshakePkgs_complete hd h
  generalize hr : ([5, if 0 ∈ slice d 2 (d.getD 1 0).toNat then 0 else 255] : Bytes) = reply at e₁
  have hlen : reply.length = 2 := by rw [← hr]; rfl
  obtain ⟨s₂, bs, e₂, t₂, hl⟩ := @Sio.sendnEx_fails reply s₁ (by rw [o₁, hlen, ht])
  exact ⟨s₂, bs, by omega, writing_of_exn (e₁.trans e₂) (by rw [t₂, t₁])⟩

/-- A parsable request is recorded before anything is sent. -/
theorem connectPkgs_parsed {t : Bytes} {m : Nat} {junk : Nat → UInt8} (hd : delivered w.store.inp = t)
    (h : Socks5.Parsable t m) :
    ∃ s', delivered s'.inp = t.drop m ∧ s'.outp = w.store.outp ∧ s'.sent = w.store.sent ∧
      connectPkgs env junk w = writing env .connect
        (Socks5.replyRequest (filled (t.take m) (263 - m)) (m - 6) (t.getD 1 0) (Socks5.addrOf t))
        ⟨s', w.trace ++ [⟨.parsed (t.getD 1 0) (t.getD 3 0) (Socks5.addrOf t), ()⟩]⟩ := by
  obtain ⟨s₁, d₁, o₁, t₁, e₁⟩ := Socks5.recvRequest_complete hd h.1 h.2.1
  refine ⟨s₁, d₁, o₁, t₁, ?_⟩
  rw [connectPkgs, bind_of_ok (onFd_of_ok e₁)]
  simp only
  rw [bind_of_ok (onFd_of_ok (Socks5.unpack_parsable h _))]
  rfl

/-- Anything else ends as it ends without the record, and nothing is added. -/
theorem connectPkgs_unparsed {t : Bytes} {junk : Nat → UInt8} (hd : delivered w.store.inp = t)
    (h : ∀ m, ¬Socks5.Parsable t m) :
    ∃ e s', Socks5.connectPkgs junk w.store = .error e s' ∧ connectPkgs env junk w = .error (haltOf e) ⟨s', w.trace⟩ := by
  rw [Socks5.connectPkgs_eq, connectPkgs]
  cases hr : Socks5.recvRequest w.store with
  | error e s' => exact ⟨e, s', bind_of_error hr, bind_of_error (onFd_of_error hr)⟩
  | ok a s₁ =>
    obtain ⟨e, s₂, hu⟩ := @Socks5.unpack_fails w.store t junk hd h _ _ _ hr
    refine ⟨e, s₂, ?_, ?_⟩
    · rw [bind_of_ok hr]
      exact bind_of_error hu
    · rw [bind_of_ok (onFd_of_ok hr)]
      exact bind_of_error (onFd_of_error hu)

/-- A complete CONNECT whose reply can be sent. -/
theorem connectPkgs_ok {t : Bytes} {m : Nat} {junk : Nat → UInt8} (hd : delivered w.store.inp = t)
    (h : Socks5.Parsable t m) (hc : t.getD 1 0 = 1) (ht : takes w.store.outp m = true) :
    ∃ s', connectPkgs env junk w = .ok (Socks5.addrOf t) ⟨s', w.trace ++
      [⟨.parsed (t.getD 1 0) (t.getD 3 0) (Socks5.addrOf t), ()⟩, ⟨.wrote .connect ((t.take m).set 1 0), ()⟩]⟩ := by
  obtain ⟨s₁, d₁, o₁, t₁, e₁⟩ := @connectPkgs_parsed env w t m junk hd h
  have hlen : ((t.take m).set 1 0).length = m := by simp [h.2.1]
  obtain ⟨s₂, e₂, -, t₂⟩ := @Sio.sendnEx_ok ((t.take m).set 1 0) s₁ (by rw [o₁, hlen, ht])
  have hr : Socks5.replyRequest (filled (t.take m) (263 - m)) (m - 6) (t.getD 1 0) (Socks5.addrOf t) s₁ =
      .ok (Socks5.addrOf t) s₂ := by
    rw [hc, Socks5.replyRequest_connect h, bind_of_ok e₂]
    rfl
  refine ⟨s₂, ?_⟩
  rw [e₁, writing_of_ok hr t₂]
  simp

/-- Behind a front end that went through, `launch` is the scope of `nextHop`. -/
theorem dealConnection_front {c : Front} {junk : Nat → UInt8} {fuel : Nat} {w₁ w₂ : World Outcome Sock} {a : AddrInfo}
    (h₁ : handshakePkgs env w = .ok () w₁) (h₂ : connectPkgs env junk w₁ = .ok a w₂) :
    dealConnection env c junk fuel w =
      deferring (perform env (.close c.mFd)) (catching (fun _ => pure ()) (withNextHop env c a fuel)) w₂ := by
  have hl : launch env c junk fuel w = catching (fun _ => pure ()) (withNextHop env c a fuel) w₂ := by
    rw [launch, catching, catching, bind_of_ok h₁, bind_of_ok h₂]
  rw [dealConnection, deferring, deferring, hl]

end

/-! ## Cleanup -/

def isClientClose (e : Event) : Bool :=
  match e.1 with
  | .clientClose => true
  | _ => false

/-- The accepted socket was closed once; so was the socket `newConnection` returned, after it was connected; and the
module was told once, if it was asked for an authentication query. -/
structure CleanedUp (c : Front) (t : List Event) : Prop where
  accepted : t.countP (isClose c.mFd) = 1
  tunnel : ∀ pre fd rp post, t = pre ++ ⟨.connect fd rp, true⟩ :: post → post.countP (isClose fd) = 1
  module : (∃ a, ⟨.makeAuthQuery, a⟩ ∈ t) → t.countP isClientClose = 1

/-- A tunnel socket that was connected is not descriptor 0, and the module accepted the server's reply over it. -/
def Established (t : List Event) : Prop :=
  ∀ fd rp, ⟨.connect fd rp, true⟩ ∈ t → fd ≠ 0 ∧ ∃ reply, ⟨.onAuthReply reply, some true⟩ ∈ t

section
variable {c : Front} {t q : List Event}

/-- A run that got no tunnel socket owes nothing but the accepted one. -/
theorem cleanedUp_of_unconnected (h1 : t.countP (isClose c.mFd) = 1) (h2 : ∀ fd rp, ⟨.connect fd rp, true⟩ ∉ t)
    (h3 : ∀ a, ⟨.makeAuthQuery, a⟩ ∉ t) : CleanedUp c t ∧ Established t := by
  refine ⟨⟨h1, fun pre fd rp post ht => ?_, fun ⟨a, ha⟩ => absurd ha (h3 a)⟩, fun fd rp hm => absurd hm (h2 fd rp)⟩
  exact absurd (by rw [ht]; simp) (h2 fd rp)

/-- A run with one tunnel socket, by what followed the connect. -/
theorem cleanedUp_of_connected {pre post : List Event} {fd : Nat} {rp : Tunnel.IpAddress}
    (ht : t = pre ++ ⟨.connect fd rp, true⟩ :: post) (hpre : ∀ fd rp, ⟨.connect fd rp, true⟩ ∉ pre)
    (hpost : ∀ fd rp, ⟨.connect fd rp, true⟩ ∉ post) (h1 : t.countP (isClose c.mFd) = 1) :
    CleanedUp c t ↔ post.countP (isClose fd) = 1 ∧ ((∃ a, ⟨.makeAuthQuery, a⟩ ∈ t) → t.countP isClientClose = 1) := by
  constructor
  · intro h
    exact ⟨h.tunnel pre fd rp post ht, h.module⟩
  · rintro ⟨h2, h3⟩
    refine ⟨h1, fun pre' fd' rp' post' ht' => ?_, h3⟩
    rw [ht, List.append_cons_inj_of_notMem (hpre fd' rp') (hpost fd' rp')] at ht'
    obtain ⟨-, he, rfl⟩ := ht'
    cases he
    exact h2

theorem established_iff {pre post : List Event} {fd : Nat} {rp : Tunnel.IpAddress}
    (ht : t = pre ++ ⟨.connect fd rp, true⟩ :: post) (hpre : ∀ fd rp, ⟨.connect fd rp, true⟩ ∉ pre)
    (hpost : ∀ fd rp, ⟨.connect fd rp, true⟩ ∉ post) :
    Established t ↔ fd ≠ 0 ∧ ∃ reply, ⟨.onAuthReply reply, some true⟩ ∈ t := by
  constructor
  · intro h
    exact h fd rp (by rw [ht]; simp)
  · intro h fd' rp' hm
    rw [ht, List.mem_append, List.mem_cons] at hm
    rcases hm with hm | hm | hm
    · exact absurd hm (hpre fd' rp')
    · cases hm
      exact h
    · exact absurd hm (hpost fd' rp')

/-- Calls between the ones that count. -/
def Plain (e : Event) : Prop := Fronting e ∨ Quiet e ∨ Dialling e

theorem plain_isClientClose {e : Event} (h : Plain e) : isClientClose e = false := by
  obtain ⟨call, r⟩ := e
  cases call <;> first | rfl | (rcases h with h | h | h <;> cases h)

theorem countP_plain (h : ∀ e ∈ q, Plain e) : q.countP isClientClose = 0 := by
  rw [List.countP_eq_zero]
  intro e he
  simp [plain_isClientClose (h e he)]

theorem connect_notMem_plain (h : ∀ e ∈ q, Plain e) (fd : Nat) (rp : Tunnel.IpAddress) :
    (⟨.connect fd rp, true⟩ : Event) ∉ q := by
  intro hm
  rcases h _ hm with h | h | h
  · cases h
  · cases h
  · cases h

theorem makeAuthQuery_notMem_plain (h : ∀ e ∈ q, Plain e) (a : Option BinarySafeString) :
    (⟨.makeAuthQuery, a⟩ : Event) ∉ q := by
  intro hm
  rcases h _ hm with h | h | h
  · cases h
  · cases h
  · cases h

theorem onAuthReply_notMem_plain (h : ∀ e ∈ q, Plain e) (reply : BinarySafeString) (ok : Option Bool) :
    (⟨.onAuthReply reply, ok⟩ : Event) ∉ q := by
  intro hm
  rcases h _ hm with h | h | h
  · cases h
  · cases h
  · cases h

/-- `doAuth` closes nothing; and it does not say `true` unless the module did. -/
theorem Authed.facts {r : Except (Halt String Lost) Bool} {v : List Event} (h : Authed r v) (hr : r ≠ .ok true) :
    (∀ m, v.countP (isClose m) = 0) ∧ v.countP isClientClose = 0 ∧ (∀ fd rp, (⟨.connect fd rp, true⟩ : Event) ∉ v) ∧
      ∀ reply, (⟨.onAuthReply reply, some true⟩ : Event) ∉ v := by
  cases h with
  | accepted reply => exact absurd rfl hr
  | refused reply => simp [isClose, isClientClose]
  | thrown e reply => simp [isClose, isClientClose]
  | stopped e => simp

theorem countP_destroyed (fd m : Nat) : (destroyed fd).countP (isClose m) = if fd ≠ 0 ∧ fd = m then 1 else 0 := by
  unfold destroyed
  by_cases h0 : fd = 0
  · simp [h0, isClose]
  · by_cases hm : fd = m
    · subst hm
      simp [h0, isClose]
    · simp [h0, hm, isClose]

theorem countP_destroyed_client (fd : Nat) : (destroyed fd).countP isClientClose = 1 := by
  unfold destroyed
  by_cases h0 : fd = 0
  · rw [if_neg (not_not.2 h0)]
    rfl
  · rw [if_pos h0]
    rfl

theorem connect_notMem_destroyed (fd fd' : Nat) (rp : Tunnel.IpAddress) :
    (⟨.connect fd' rp, true⟩ : Event) ∉ destroyed fd := by
  unfold destroyed
  by_cases h0 : fd = 0
  · simp [h0]
  · simp [h0]

/-- Nothing but plain calls before the last `close`. -/
theorem plain_cleanedUp (hp : ∀ e ∈ q, Plain e) (hc : q.countP (isClose c.mFd) = 0) :
    CleanedUp c (q ++ [⟨.close c.mFd, ()⟩]) ↔ Established (q ++ [⟨.close c.mFd, ()⟩]) := by
  obtain ⟨h1, h2⟩ := @cleanedUp_of_unconnected c (q ++ [⟨.close c.mFd, ()⟩]) (by simp [hc, isClose])
    (fun fd rp hm => connect_notMem_plain hp fd rp (by simpa using hm))
    (fun a hm => makeAuthQuery_notMem_plain hp a (by simpa using hm))
  exact iff_of_true h1 h2

/-- A tunnel socket was connected: what is left depends on the calls `rest` after that. -/
theorem connected_cleanedUp {d rest : List Event} {fd : Nat} {rp : Tunnel.IpAddress} (hq : ∀ e ∈ q, Plain e)
    (hd : ∀ e ∈ d, Plain e) (hqc : q.countP (isClose c.mFd) = 0) (hdc : d.countP (isClose c.mFd) = 0)
    (hrc : rest.countP (isClose c.mFd) = 0) (hrest : ∀ fd rp, (⟨.connect fd rp, true⟩ : Event) ∉ rest)
    (hauth : ∃ a, (⟨.makeAuthQuery, a⟩ : Event) ∈ rest) (hne : fd ≠ c.mFd) :
    let t := q ++ (d ++ [⟨.connect fd rp, true⟩, ⟨.freeaddrinfo, ()⟩] ++ rest) ++ [⟨.close c.mFd, ()⟩]
    (CleanedUp c t ↔ rest.countP (isClose fd) = 1 ∧ rest.countP isClientClose = 1) ∧
      (Established t ↔ fd ≠ 0 ∧ ∃ reply, ⟨.onAuthReply reply, some true⟩ ∈ rest) := by
  intro t
  have ht : t = (q ++ d) ++ ⟨.connect fd rp, true⟩ :: (⟨.freeaddrinfo, ()⟩ :: rest ++ [⟨.close c.mFd, ()⟩]) := by simp [t]
  have hpre : ∀ fd rp, (⟨.connect fd rp, true⟩ : Event) ∉ q ++ d := by
    intro fd rp hm
    rcases List.mem_append.1 hm with hm | hm
    · exact connect_notMem_plain hq fd rp hm
    · exact connect_notMem_plain hd fd rp hm
  have hpost : ∀ fd rp, (⟨.connect fd rp, true⟩ : Event) ∉ ⟨.freeaddrinfo, ()⟩ :: rest ++ [⟨.close c.mFd, ()⟩] := by
    intro fd rp hm
    exact hrest fd rp (by simpa using hm)
  have h1 : t.countP (isClose c.mFd) = 1 := by simp [t, hqc, hdc, hrc, isClose]
  have h2 : List.countP (isClose fd) (⟨.freeaddrinfo, ()⟩ :: rest ++ [⟨.close c.mFd, ()⟩]) = rest.countP (isClose fd) := by
    have hne' : c.mFd ≠ fd := hne.symm
    simp [isClose, hne']
  have h3 : t.countP isClientClose = rest.countP isClientClose := by
    simp [t, countP_plain hq, countP_plain hd, isClientClose]
  have h4 : ∃ a, ⟨.makeAuthQuery, a⟩ ∈ t := by
    obtain ⟨a, ha⟩ := hauth
    exact ⟨a, by simp [t, ha]⟩
  constructor
  · rw [cleanedUp_of_connected ht hpre hpost h1, h2, h3]
    exact ⟨fun h => ⟨h.1, h.2 h4⟩, fun h => ⟨h.1, fun _ => h.2⟩⟩
  · rw [established_iff ht hpre hpost]
    have hmem : ∀ reply, ⟨.onAuthReply reply, some true⟩ ∈ t ↔ ⟨.onAuthReply reply, some true⟩ ∈ rest := by
      intro reply
      have hnq := onAuthReply_notMem_plain hq reply (some true)
      have hnd := onAuthReply_notMem_plain hd reply (some true)
      simp [t, hnq, hnd]
    simp only [hmem]

/-- The same of what `dialServer` recorded: the kernel gave it a descriptor of its own. -/
theorem dialled_cleanedUp {u rest : List Event} {fd : Nat} (hd : Dialled c.serverAddr c.serverPort (.ok fd) u)
    (hq : ∀ e ∈ q, Plain e) (hqc : q.countP (isClose c.mFd) = 0) (hkernel : ∀ rp, ⟨.socket rp, some c.mFd⟩ ∉ u)
    (hrc : fd ≠ c.mFd → rest.countP (isClose c.mFd) = 0) (hrest : ∀ fd rp, (⟨.connect fd rp, true⟩ : Event) ∉ rest)
    (hauth : ∃ a, (⟨.makeAuthQuery, a⟩ : Event) ∈ rest) :
    let t := q ++ (u ++ rest) ++ [⟨.close c.mFd, ()⟩]
    (CleanedUp c t ↔ rest.countP (isClose fd) = 1 ∧ rest.countP isClientClose = 1) ∧
      (Established t ↔ fd ≠ 0 ∧ ∃ reply, ⟨.onAuthReply reply, some true⟩ ∈ rest) := by
  obtain ⟨d, rp, rfl, hdp, hsock, hdc⟩ := hd.of_ok (m := c.mFd)
  have hne : fd ≠ c.mFd := by
    rintro rfl
    exact hkernel rp (by simp [hsock])
  have hdc0 : d.countP (isClose c.mFd) = 0 := hdc fun rp hm => hkernel rp (by simp [hm])
  exact connected_cleanedUp hq (fun e he => .inr (.inr (hdp e he))) hqc hdc0 (hrc hne) hrest hauth hne

/-- The constructor threw after it had dialled: nobody closes the tunnel socket. -/
theorem unauthorised_cleanedUp {u q' v : List Event} {fd : Nat} {r : Except (Halt String Lost) Bool}
    {a : Option BinarySafeString} (hq : ∀ e ∈ q, Plain e) (hqc : q.countP (isClose c.mFd) = 0)
    (hd : Dialled c.serverAddr c.serverPort (.ok fd) u) (hq' : ∀ e ∈ q', Quiet e) (hv : Authed r v) (hr : r ≠ .ok true)
    (hkernel : ∀ rp, ⟨.socket rp, some c.mFd⟩ ∉ u) :
    let t := q ++ (u ++ ⟨.makeAuthQuery, a⟩ :: (q' ++ v)) ++ [⟨.close c.mFd, ()⟩]
    CleanedUp c t ↔ Established t := by
  intro t
  obtain ⟨hvc, hvm, hvt, hva⟩ := hv.facts hr
  have hq'p : ∀ e ∈ q', Plain e := fun e he => .inr (.inl (hq' e he))
  have hq'c := Quiet.countP_isClose hq'
  have hrest : ∀ fd rp, (⟨.connect fd rp, true⟩ : Event) ∉ ⟨.makeAuthQuery, a⟩ :: (q' ++ v) := by
    intro fd rp hm
    have hnq := connect_notMem_plain hq'p fd rp
    exact hvt fd rp (by simpa [hnq] using hm)
  obtain ⟨h1, h2⟩ := dialled_cleanedUp hd hq hqc hkernel (fun _ => by simp [isClose, hq'c, hvc]) hrest ⟨a, by simp⟩
  rw [h1, h2]
  refine iff_of_false ?_ ?_
  · simp [isClose, hq'c, hvc]
  · rintro ⟨-, reply, hm⟩
    have hnq := onAuthReply_notMem_plain hq'p reply (some true)
    exact hva reply (by simpa [hnq] using hm)

/-- The connection ran: the destructor closes the tunnel socket, unless that is descriptor 0. -/
theorem used_cleanedUp {u q' q'' : List Event} {fd : Nat} {a : Option BinarySafeString} {reply : BinarySafeString}
    (hq : ∀ e ∈ q, Plain e) (hqc : q.countP (isClose c.mFd) = 0) (hd : Dialled c.serverAddr c.serverPort (.ok fd) u)
    (hq' : ∀ e ∈ q', Quiet e) (hq'' : ∀ e ∈ q'', Quiet e) (hkernel : ∀ rp, ⟨.socket rp, some c.mFd⟩ ∉ u) :
    let t := q ++ (u ++ (⟨.makeAuthQuery, a⟩ :: (q' ++ [⟨.onAuthReply reply, some true⟩]) ++ q'' ++ destroyed fd)) ++
      [⟨.close c.mFd, ()⟩]
    CleanedUp c t ↔ Established t := by
  intro t
  have hq'p : ∀ e ∈ q', Plain e := fun e he => .inr (.inl (hq' e he))
  have hq''p : ∀ e ∈ q'', Plain e := fun e he => .inr (.inl (hq'' e he))
  have hq'c := Quiet.countP_isClose hq'
  have hq''c := Quiet.countP_isClose hq''
  obtain ⟨rest, hr⟩ : ∃ rest, rest = ⟨.makeAuthQuery, a⟩ :: (q' ++ [⟨.onAuthReply reply, some true⟩]) ++ q'' ++
    destroyed fd := ⟨_, rfl⟩
  have hrest : ∀ fd' rp, (⟨.connect fd' rp, true⟩ : Event) ∉ rest := by
    intro fd' rp hm
    have hn' := connect_notMem_plain hq'p fd' rp
    have hn'' := connect_notMem_plain hq''p fd' rp
    have hnd := connect_notMem_destroyed fd fd' rp
    simp [hr, hn', hn'', hnd] at hm
  have hrc : fd ≠ c.mFd → rest.countP (isClose c.mFd) = 0 := by
    intro hne
    simp [hr, isClose, hq'c, hq''c, countP_destroyed, hne]
  have hc : rest.countP (isClose fd) = if fd ≠ 0 then 1 else 0 := by simp [hr, isClose, hq'c, hq''c, countP_destroyed]
  have hcm : rest.countP isClientClose = 1 := by
    simp [hr, isClientClose, countP_plain hq'p, countP_plain hq''p, countP_destroyed_client]
  obtain ⟨h1, h2⟩ := dialled_cleanedUp hd hq hqc hkernel hrc hrest ⟨a, by simp [hr]⟩
  simp only [t, ← hr]
  rw [h1, h2, hc, hcm]
  constructor
  · rintro ⟨h, -⟩
    exact ⟨fun h0 => by simp [h0] at h, reply, by simp [hr]⟩
  · rintro ⟨h, -⟩
    exact ⟨by rw [if_pos h], rfl⟩

/-- **Cleanup.** For every environment, every byte stream and every number of rounds: a connection that has been
destroyed left nothing behind exactly when the tunnel socket it got, if any, was not descriptor 0 and was accepted. The
kernel does not hand out the accepted descriptor, which is open, a second time. -/
theorem dealConnection_cleanup_iff (env : Env Outcome) (c : Front) (junk : Nat → UInt8) (fuel : Nat) (s : Sock)
    (w : World Outcome Sock) (hrun : dealConnection env c junk fuel ⟨s, []⟩ = .ok () w)
    (hkernel : ∀ rp, ⟨.socket rp, some c.mFd⟩ ∉ w.trace) : CleanedUp c w.trace ↔ Established w.trace := by
  obtain ⟨u, ht, h⟩ := (dealConnection_ends c junk fuel ⟨s, []⟩).ok hrun
  rw [List.nil_append] at ht
  rcases h with ⟨q, v, -, hq, hv, rfl⟩ | ⟨f, hf⟩
  swap
  · cases hf
  rw [ht] at hkernel ⊢
  have hqp : ∀ e ∈ q, Plain e := fun e he => .inl (hq e he)
  have hqc : q.countP (isClose c.mFd) = 0 := Fronting.countP_isClose hq c.mFd
  cases hv with
  | early => simpa using plain_cleanedUp hqp hqc
  | unbuilt hb =>
    cases hb with
    | undialled hd =>
      obtain ⟨hdp, hdc⟩ := hd.of_error (m := c.mFd)
      refine plain_cleanedUp (fun e he => ?_) ?_
      · rcases List.mem_append.1 he with he | he
        · exact hqp e he
        · exact .inr (.inr (hdp e he))
      · rw [List.countP_append, hqc, hdc fun rp hm => hkernel rp (by simp [hm])]
    | unauthorised e a hd hq' hv' hr =>
      exact unauthorised_cleanedUp hqp hqc hd hq' hv' hr fun rp hm => hkernel rp (by simp [hm])
  | used hb hq'' =>
    cases hb with
    | connected a reply hd hq' =>
      simpa using used_cleanedUp hqp hqc hd hq' hq'' fun rp hm => hkernel rp (by simp [hm])

end

/-- A module that judges the server's reply by `ok`; the application ends the session. -/
def answering (fd : Nat) (ok : Bool) : Env Outcome := fun t call =>
  match call with
  | .onAuthReply _ => some ok
  | call => calm fd t call

/-- A greeting that offers method 0, and CONNECT 1.2.3.4:80. -/
def plainClient : Sock := ⟨[.data [5, 1, 0, 5, 1, 0, 1, 1, 2, 3, 4, 0, 80]], [.wrote 2, .wrote 10], []⟩

/-- What the front end records for it. -/
def plainFront : List Event :=
  [⟨.wrote .handshake [5, 0], ()⟩, ⟨.parsed 1 1 ⟨.ipv4, [1, 2, 3, 4], 80⟩, ()⟩,
    ⟨.wrote .connect [5, 0, 0, 1, 1, 2, 3, 4, 0, 80], ()⟩]

theorem plainClient_front (env : Env Outcome) (c : Front) (junk : Nat → UInt8) (fuel : Nat) :
    ∃ s, dealConnection env c junk fuel ⟨plainClient, []⟩ =
      deferring (perform env (.close c.mFd)) (catching (fun _ => pure ())
        (withNextHop env c ⟨.ipv4, [1, 2, 3, 4], 80⟩ fuel)) ⟨s, plainFront⟩ := by
  obtain ⟨s₁, d₁, hs, e₁⟩ := @handshakePkgs_ok env ⟨plainClient, []⟩ _ rfl (by decide) (by decide)
  have hout : s₁.outp = [.wrote 10] := by
    have h : some [Sio.SendEv.wrote 10] = some s₁.outp := congrArg Prod.snd hs
    exact (Option.some.inj h).symm
  obtain ⟨s₂, e₂⟩ := @connectPkgs_ok env ⟨s₁, _⟩ [5, 1, 0, 1, 1, 2, 3, 4, 0, 80] 10 junk d₁
    ⟨rfl, by decide, rfl⟩ rfl (by rw [hout]; decide)
  exact ⟨s₂, dealConnection_front e₁ e₂⟩

/-- The calls up to the module's verdict, when nothing fails on the way. -/
def dialledAndAsked (fd : Nat) (ok : Bool) : List Event :=
  let rp := .v4 (Socks5.ip4 [127, 0, 0, 1])
  [⟨.getaddrinfo "proxy" 3333, .ok [rp]⟩, ⟨.socket rp, some fd⟩, ⟨.setsockopt fd .reuseAddr, true⟩,
    ⟨.setsockopt fd .reusePort, true⟩, ⟨.connect fd rp, true⟩, ⟨.freeaddrinfo, ()⟩, ⟨.makeAuthQuery, some (.ofBlock [1])⟩,
    ⟨.sendn fd [0, 0, 0, 1], true⟩, ⟨.sendn fd [1], true⟩, ⟨.recvn fd 4, some zeroHeader⟩,
    ⟨.recvn fd 0, some zeroBody⟩, ⟨.onAuthReply (.ofBlock []), some ok⟩]

theorem doAuth_answering (ok : Bool) (s : Sock) :
    doAuth (answering 7 ok) 7 ⟨s, plainFront ++ (dialledAndAsked 7 ok).take 6⟩ =
      .ok ok ⟨s, plainFront ++ dialledAndAsked 7 ok⟩ := rfl

theorem newConnection_answering (ok : Bool) (s : Sock) :
    newConnection (answering 7 ok) ⟨"proxy", 3333, 5⟩ ⟨s, plainFront⟩ =
      .ok 7 ⟨s, plainFront ++ (dialledAndAsked 7 ok).take 6⟩ := rfl

/-- The application ends an accepted session, and everything is closed. -/
theorem dealConnection_answering_true :
    ∃ s, dealConnection (answering 7 true) ⟨"proxy", 3333, 5⟩ (fun _ => 0) 1 ⟨plainClient, []⟩ =
      .ok () ⟨s, plainFront ++ dialledAndAsked 7 true ++ [⟨.select [5, 7], some (true, false)⟩, ⟨.readall 5, some []⟩,
        ⟨.clientClose, ()⟩, ⟨.close 7, ()⟩, ⟨.close 5, ()⟩]⟩ := by
  obtain ⟨s, e⟩ := plainClient_front (answering 7 true) ⟨"proxy", 3333, 5⟩ (fun _ => 0) 1
  have hnew : snakeConnection (answering 7 true) ⟨"proxy", 3333, 5⟩ ⟨s, plainFront⟩ =
      .ok 7 ⟨s, plainFront ++ dialledAndAsked 7 true⟩ := by
    rw [snakeConnection, bind_of_ok (newConnection_answering true s), bind_of_ok (doAuth_answering true s)]
    rfl
  have hpass : passData (answering 7 true) ⟨"proxy", 3333, 5⟩ 7 ⟨.ipv4, [1, 2, 3, 4], 80⟩ 1
      ⟨s, plainFront ++ dialledAndAsked 7 true⟩ = .ok () ⟨s, plainFront ++ dialledAndAsked 7 true ++
        [⟨.select [5, 7], some (true, false)⟩, ⟨.readall 5, some []⟩]⟩ := by
    rw [passData, Socks5.toQueryTemplate_ipv4 rfl (by decide)]
    rfl
  refine ⟨s, e.trans ?_⟩
  rw [deferring, catching, withNextHop, bind_of_ok hnew, deferring, bind_of_ok (rfl : dnsPkgs _ 7 _ _ = .ok _ _), hpass]
  rfl

theorem dealConnection_cleanup_accepted :
    ∃ w, dealConnection (answering 7 true) ⟨"proxy", 3333, 5⟩ (fun _ => 0) 1 ⟨plainClient, []⟩ = .ok () w ∧
      CleanedUp ⟨"proxy", 3333, 5⟩ w.trace := by
  obtain ⟨s, e⟩ := dealConnection_answering_true
  refine ⟨_, e, (dealConnection_cleanup_iff _ _ _ _ _ _ e ?_).2 ?_⟩
  · intro rp hm
    simp [plainFront, dialledAndAsked] at hm
  · intro fd rp hm
    simp [plainFront, dialledAndAsked] at hm
    exact ⟨by omega, .ofBlock [], by simp [dialledAndAsked]⟩

/-- The server's reply is refused: the tunnel socket stays open and the module is not told. -/
theorem refused_connection_leaks :
    ¬∀ (env : Env Outcome) (c : Front) (junk : Nat → UInt8) (fuel : Nat) (s : Sock) (w : World Outcome Sock),
      dealConnection env c junk fuel ⟨s, []⟩ = .ok () w → (∀ rp, ⟨.socket rp, some c.mFd⟩ ∉ w.trace) →
        CleanedUp c w.trace := by
  intro h
  obtain ⟨s, e⟩ := plainClient_front (answering 7 false) ⟨"proxy", 3333, 5⟩ (fun _ => 0) 1
  have hnew : snakeConnection (answering 7 false) ⟨"proxy", 3333, 5⟩ ⟨s, plainFront⟩ =
      .error (.raised "Auth failed.") ⟨s, plainFront ++ dialledAndAsked 7 false⟩ := by
    rw [snakeConnection, bind_of_ok (newConnection_answering false s), bind_of_ok (doAuth_answering false s)]
    rfl
  have hrun : dealConnection (answering 7 false) ⟨"proxy", 3333, 5⟩ (fun _ => 0) 1 ⟨plainClient, []⟩ =
      .ok () ⟨s, plainFront ++ dialledAndAsked 7 false ++ [⟨.close 5, ()⟩]⟩ := by
    rw [e, deferring, catching, withNextHop, bind_of_error hnew]
    rfl
  have hc := h _ _ _ _ _ _ hrun (by
    intro rp hm
    simp [plainFront, dialledAndAsked] at hm)
  have hm := hc.module ⟨some (.ofBlock [1]), by simp [dialledAndAsked]⟩
  simp [plainFront, dialledAndAsked, isClientClose] at hm

end SnakeSocks.Native
