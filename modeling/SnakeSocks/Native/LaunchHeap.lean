import SnakeSocks.Native.Agreement
import SnakeSocks.Native.Launch

/-!
# The heap of `skcli`

| here | there |
| --- | --- |
| `snakeConnection`, `destroySnakeConnection` | `SnakeConnection` (`connection.hpp:21-34`), with its `connect_info` |
| `doAuth` | `outbound_tunnel::doAuth` (`tunnel.cc:127`) |
| `encode` | `client_impl::encode` (`module.cc:22`) |
| `dnsPkgs`, `passLoop` | `Socks5Connection::dns_pkgs` (`socks5.cc:266`), `::passData` (`:303`) |
| `readall` | `rlib::fdIO::readall` (`sio.hpp:330`) |

The session of `Native/Launch.lean` from the side of the memory. `new` is a `malloc` that throws; the passphrase in the
`connect_info` belongs to the tunnel and not to the session.
-/

namespace SnakeSocks.LaunchHeap

open ByteLib CMem Effects Ledger Owned Heap
open Native (Front)
open Sio (Sock)
open Socks5 (AddrInfo)
open NetLib (maxPacket)

/-! ## The code -/

section
variable (env : Env Outcome) (M : ClientModule Sock)

/-- `sizeof(connect_info)`. -/
def connectInfoSize : Nat := 56

/-- `initConnInfo`. -/
def initConnInfo : Prog Sock Ptr := do
  match ← perform env (.malloc connectInfoSize) with
  | none => raise "std::bad_alloc"
  | some b => return some b

def doAuth (connfd : Nat) : Prog Sock Bool := do
  let (str, authdat) ← M.makeAuthQuery
  deferring (perform env (.free str)) do
    lift env fun env => Native.sendAuthQuery env connfd authdat
    let replyLen ← lift env fun env => Native.recvnEx env connfd 4
    if beNat replyLen > maxPacket then raise "authReply is too long(incorrect)" else
    let rbuf ← perform env (.malloc (beNat replyLen))
    deferring (perform env (.free rbuf)) do
      match ← perform env (.recvInto .authReply rbuf connfd (beNat replyLen)) with
      | none => raise "recvn failed."
      | some reply => M.dealAuthReply (.ofBlock reply.1)

def connect (c : Front) : Prog Sock Nat := do
  let connfd ← lift env fun env => Native.newConnection env c
  if ← doAuth env M connfd then return connfd else raise "Auth failed."

/-- The constructor: an exception of `connect` leaves the `connect_info`. -/
def snakeConnection (c : Front) : Prog Sock (Ptr × Nat) := do
  let myConnInfo ← initConnInfo env
  let connfd ← connect env M c
  return (myConnInfo, connfd)

/-- The destructor. -/
def destroySnakeConnection (myConnInfo : Ptr) (connfd : Nat) : Prog Sock Unit := do
  let _ ← perform env (.other .clientClose)
  M.connectionClose
  let _ ← perform env (.free myConnInfo)
  if connfd ≠ 0 then perform env (.other (.close connfd)) else return ()

/-- "payload.str will be finally freed", unless it is empty. -/
def encode (str : Ptr) (payload : BinarySafeString) (own : Ptr) (addrTemplate : ClientQuery) :
    Prog Sock (Ptr × BinarySafeString) :=
  if payload.length ≠ 0 then M.encode str { addrTemplate with payload } else M.encode own addrTemplate

def sendEncoded (connfd : Nat) (dat : BinarySafeString) : Prog Sock Unit :=
  lift env fun env => do
    Native.sendnEx env connfd (beBytes 4 dat.length.toNat)
    Native.sendnEx env connfd dat.bytes

/-- The reply's payload is not freed, and neither is its buffer if `recvn` throws. -/
def dnsPkgs (connfd : Nat) (rawAddr : AddrInfo) : Prog Sock AddrInfo := do
  if rawAddr.type ≠ .domain then return rawAddr else
  let pkg := rawAddr.makeDnsQueryBody
  let str ← mallocd env pkg.payload.length.toNat
  let (firstPack, dat) ← encode M str pkg.payload str pkg
  deferring (perform env (.free firstPack)) do
    sendEncoded env connfd dat
    let length ← lift env fun env => Native.recvnEx env connfd 4
    let firstReturnPack ← perform env (.malloc (beNat length))
    match ← perform env (.recvInto .dnsReply firstReturnPack connfd (beNat length)) with
    | none => raise "recvn failed."
    | some reply =>
      let (_, dnsResponse) ← M.decode firstReturnPack (.ofBlock reply.1)
      lift env fun _ => Native.ofExcept (Socks5.goodAddr rawAddr dnsResponse)

/-- `*pvptr` is only set on success. -/
def readall (fd : Nat) : Prog Sock (Ptr × Option Bytes) := do
  let vptr ← perform env (.malloc 1024)
  match ← perform env (.readInto vptr fd) with
  | none => return (none, none)
  | some bs => return (vptr, some bs.1)

def thisHopReadable (c : Front) (connfd : Nat) (template : ClientQuery) : Prog Sock Bool := do
  let (bridgeBuffer, ret) ← readall env c.mFd
  match ret with
  | none =>
    let _ ← perform env (.free bridgeBuffer)
    raise "read failed"
  | some [] =>
    let _ ← perform env (.free bridgeBuffer)
    return false
  | some (b :: bs) =>
    let (encodedDat, dat) ← encode M bridgeBuffer (.ofBlock (b :: bs)) none template
    deferring (perform env (.free encodedDat)) do
      sendEncoded env connfd dat
      return true

def nextHopReadable (c : Front) (connfd : Nat) : Prog Sock Bool := do
  let binLen ← lift env fun env => Native.recvnEx env connfd 4
  if beNat binLen = 0 then return false else
  let bridgeBuffer ← perform env (.malloc (beNat binLen))
  match ← perform env (.recvInto .data bridgeBuffer connfd (beNat binLen)) with
  | none =>
    let _ ← perform env (.free bridgeBuffer)
    raise "RecvnAndFree failed."
  | some data =>
    let (decodedDat, query) ← M.decode bridgeBuffer (.ofBlock data.1)
    deferring (perform env (.free decodedDat)) do
      lift env fun env => Native.sendnEx env c.mFd query.payload.bytes
      return true

/-- A round of the loop, by what is readable; `false` is `goto _close_conn`. -/
def passRound (c : Front) (connfd : Nat) (template : ClientQuery) : Option (Bool × Bool) → Prog Sock Bool
  | none => raise "Select failed"
  | some (app, hop) => do
    let up ← (if app then thisHopReadable env M c connfd template else pure true)
    if !up then return false else if hop then nextHopReadable env M c connfd else pure true

def passLoop (c : Front) (connfd : Nat) (template : ClientQuery) : Nat → Prog Sock Unit
  | 0 => lose (.native .running)
  | fuel + 1 => do
    let ready ← perform env (.other (.select [c.mFd, connfd]))
    if ← passRound env M c connfd template ready then passLoop c connfd template fuel else return ()

def passData (c : Front) (connfd : Nat) (resolvedAddr : AddrInfo) (fuel : Nat) : Prog Sock Unit := do
  let template ← lift env fun _ => Native.ofExcept resolvedAddr.toQueryTemplate
  passLoop env M c connfd template fuel

def withNextHop (c : Front) (rawAddr : AddrInfo) (fuel : Nat) : Prog Sock Unit := do
  let (myConnInfo, connfd) ← snakeConnection env M c
  deferring (destroySnakeConnection env M myConnInfo connfd) do
    let resolvedAddr ← dnsPkgs env M connfd rawAddr
    passData env M c connfd resolvedAddr fuel

/-- `handshake_pkgs` and `connect_pkgs`. -/
def frontPkgs (junk : Nat → UInt8) : Prog Sock AddrInfo :=
  lift env fun env => do
    Native.handshakePkgs env
    Native.connectPkgs env junk

def launch (c : Front) (junk : Nat → UInt8) (fuel : Nat) : Prog Sock Unit :=
  catching (fun _ => pure ()) do
    let rawAddr ← frontPkgs env junk
    withNextHop env M c rawAddr fuel

def dealConnection (c : Front) (junk : Nat → UInt8) (fuel : Nat) : Prog Sock Unit :=
  deferring (perform env (.other (.close c.mFd))) (launch env M c junk fuel)

end

/-! ## What the session does not free -/

def isSelect : Event → Bool
  | ⟨.other (.select _), _⟩ => true
  | _ => false

def isClientClose : Event → Bool
  | ⟨.other .clientClose, _⟩ => true
  | _ => false

/-- Before the relay: the payload of the DNS reply or the buffer that could not be filled with it, and what the module leaves
of its own. -/
def forgotten : Event → Nat
  | ⟨.decoded _, query⟩ => if query.payload.length ≠ 0 then 1 else 0
  | ⟨.recvInto .dnsReply (some _) _ _, none⟩ => 1
  | e => scratch e

/-- In the relay, only the buffer of a `read` that failed. -/
def unread : Event → Nat
  | ⟨.readInto (some _) _, none⟩ => 1
  | _ => 0

/-- A call before the relay. -/
def Early (e : Event) : Prop := isSelect e = false ∧ isClientClose e = false ∧ unread e = 0

def Unclosed (e : Event) : Prop := isClientClose e = false

/-- A call of the session proper that opens neither the relay nor the cleanup. -/
def Preparing (e : Native.Event) : Prop :=
  match e.1 with
  | .select _ | .clientClose => False
  | _ => True

section
variable {α : Type} {p : Native.Event → Prop} {σ : Type}

theorem preparing_silent {e : Native.Event} (h : Preparing e) : Early (embed e) ∧ forgotten (embed e) = 0 := by
  obtain ⟨call, r⟩ := e
  cases call <;> first | exact ⟨⟨rfl, rfl, rfl⟩, rfl⟩ | cases h

theorem quiet_silent {e : Native.Event} (h : Native.Quiet e) : Unclosed (embed e) ∧ unread (embed e) = 0 := by
  obtain ⟨call, r⟩ := e
  cases call <;> first | exact ⟨rfl, rfl⟩ | cases h

theorem preparing_recvnEx (env : Env Native.Outcome) (fd n : Nat) :
    Only Preparing (Native.recvnEx env fd n : Native.Session σ Bytes) := by
  refine (only_perform fun r => trivial).bind fun r => ?_
  cases r with
  | none => exact only_raise _
  | some bs => exact only_pure _

theorem preparing_sendnEx (env : Env Native.Outcome) (fd : Nat) (bs : Bytes) :
    Only Preparing (Native.sendnEx env fd bs : Native.Session σ Unit) := by
  refine (only_perform fun r => trivial).bind fun r => ?_
  cases r with
  | false => exact only_raise _
  | true => exact only_pure _

theorem preparing_sendAuthQuery (env : Env Native.Outcome) (connfd : Nat) (authdat : BinarySafeString) :
    Only Preparing (Native.sendAuthQuery env connfd authdat) := by
  unfold Native.sendAuthQuery
  split
  · exact only_raise _
  · exact (preparing_sendnEx env connfd _).bind fun _ => preparing_sendnEx env connfd _

theorem preparing_tryAddrs (env : Env Native.Outcome) (rps : List Tunnel.IpAddress) :
    Only Preparing (Native.tryAddrs env rps : Native.Session σ (Option Nat)) := by
  induction rps with
  | nil => exact only_pure _
  | cons rp rps ih =>
    refine (only_perform fun r => trivial).bind fun sock => ?_
    cases sock with
    | none => exact ih
    | some fd =>
      refine (only_perform fun r => trivial).bind fun ok => ?_
      cases ok with
      | false => exact only_raise _
      | true =>
        refine (only_perform fun r => trivial).bind fun ok => ?_
        cases ok with
        | false => exact only_raise _
        | true =>
          refine (only_perform fun r => trivial).bind fun ok => ?_
          cases ok with
          | true => exact only_pure _
          | false => exact (only_perform fun r => trivial).bind fun _ => ih

theorem preparing_newConnection (env : Env Native.Outcome) (c : Front) : Only Preparing (Native.newConnection env c) := by
  refine (only_perform fun r => trivial).bind fun found => ?_
  cases found with
  | error ret => exact only_raise _
  | ok paddr =>
    refine Only.deferring (only_perform fun r => trivial) ?_
    refine (preparing_tryAddrs env paddr).bind fun sock => ?_
    cases sock with
    | none => exact only_raise _
    | some fd => exact only_pure _

end

section
variable {α : Type} {env : Env Outcome} {M : ClientModule Sock} {own : Ptr → Prop} {w : World Outcome (Store Sock)}

theorem early_of_authed {m : List Event} (hm : ∀ e ∈ m, (∃ q r, e = ⟨.authReply q, r⟩) ∨ ∃ q r, e = ⟨.authOk q, r⟩) :
    (∀ e ∈ m, Early e) ∧ (m.map scratch).sum = total forgotten m := by
  have h : ∀ e ∈ m, Early e ∧ scratch e = forgotten e := by
    intro e he
    obtain ⟨q, r, rfl⟩ | ⟨q, r, rfl⟩ := hm e he
    · exact ⟨⟨rfl, rfl, rfl⟩, rfl⟩
    · exact ⟨⟨rfl, rfl, rfl⟩, rfl⟩
  exact ⟨fun e he => (h e he).1, congrArg List.sum (List.map_congr_left fun e he => (h e he).2)⟩

/-- What the module is told in `doAuth`. -/
theorem dealAuthReply_runs (hM : ClientAgreement own M) (hw : w.store.additionalInfo = none) (reply : BinarySafeString) :
    Runs (M.dealAuthReply reply) w [] (Handed forgotten Early own) := by
  refine Spends.imp (hM.dealAuthReply reply w hw) fun r s u b h hr => ?_
  match r, h with
  | .ok _, ⟨_, hown, hm, junk, hb, hj⟩ => exact ⟨hown, (early_of_authed hm).1, junk, hb, by rw [hj, (early_of_authed hm).2]⟩
  | .error (.lost _), _ => exact hr.elim

theorem doAuth_runs (hM : ClientAgreement own M) (hown : own none) (hw : w.store.additionalInfo = none) (connfd : Nat) :
    Runs (doAuth env M connfd) w [] (Handed forgotten Early own) := by
  have hnone : ∀ {e : String} {s : Store Sock} {m : List Event}, s.additionalInfo = none → (∀ e ∈ m, Early e) →
      total forgotten m = 0 → @Handed Sock Bool forgotten Early own (.error (.raised e)) s m [] := by
    intro e s m hs hm hz
    exact Leftover.handed ⟨hs, hm, by rw [hz]; rfl⟩ hown
  refine (hM.makeAuthQuery w hw).bind ?_ ?_
  · rintro ⟨str, authdat⟩ w₁ m b ⟨s₁, rfl, rfl⟩
    refine Spends.imp (?_ : Runs _ w₁ str.toList (Handed forgotten Early own)) fun r s u b h =>
      h.append (m := [⟨.authQuery, authdat⟩]) (List.forall_mem_singleton.2 ⟨rfl, rfl, rfl⟩) rfl
    refine Runs.handed_freeing ?_
    refine lift_bind (fun env' => preparing_sendAuthQuery env' connfd authdat) (fun _ => preparing_silent)
      (fun _ w₂ m₂ s₂ hm₂ hz₂ => ?_) (fun e s m hs => hnone (by rw [hs, s₁, hw])) fun _ _ _ _ => False.elim
    refine Spends.imp (?_ : Runs _ w₂ [] (Handed forgotten Early own)) fun r s u b h => h.append hm₂ hz₂
    refine lift_bind (fun env' => preparing_recvnEx env' connfd 4) (fun _ => preparing_silent)
      (fun replyLen w₃ m₃ s₃ hm₃ hz₃ => ?_) (fun e s m hs => hnone (by rw [hs, s₂, s₁, hw])) fun _ _ _ _ => False.elim
    have hs₃ : w₃.store.additionalInfo = none := by rw [s₃, s₂, s₁, hw]
    refine Spends.imp (?_ : Runs _ w₃ [] (Handed forgotten Early own)) fun r s u b h => h.append hm₃ hz₃
    split
    · exact spends_raise (hnone hs₃ (by simp [marks]) rfl)
    · refine runs_malloc_bind fun rbuf w₄ s₄ => ?_
      rw [List.append_nil]
      refine Runs.handed_freeing ?_
      refine runs_mark_bind (fun _ => rfl) fun reply w₅ s₅ => ?_
      have hs₅ : w₅.store.additionalInfo = none := by rw [s₅, s₄, hs₃]
      cases reply with
      | none =>
        refine spends_raise (hnone hs₅ (List.forall_mem_singleton.2 ⟨rfl, rfl, rfl⟩) ?_)
        cases rbuf <;> rfl
      | some bs =>
        refine Spends.imp (dealAuthReply_runs hM hs₅ _) fun r s u b h => ?_
        refine h.append (m := [_]) (List.forall_mem_singleton.2 ⟨rfl, rfl, rfl⟩) ?_
        cases rbuf <;> rfl
  · intro e s m b h
    cases e with
    | raised e => cases h
    | lost l => exact False.elim

theorem connect_runs (hM : ClientAgreement own M) (hown : own none) (hw : w.store.additionalInfo = none) (c : Front) :
    Runs (connect env M c) w [] (Handed forgotten Early own) := by
  refine lift_bind (fun env' => preparing_newConnection env' c) (fun _ => preparing_silent)
    (fun connfd w₁ m₁ s₁ hm₁ hz₁ => ?_)
    (fun e s m hs hm hz => Leftover.handed ⟨by rw [hs, hw], hm, by rw [hz]; rfl⟩ hown) fun _ _ _ _ => False.elim
  refine Spends.imp (?_ : Runs _ w₁ [] (Handed forgotten Early own)) fun r s u b h => h.append hm₁ hz₁
  refine (doAuth_runs hM hown (by rw [s₁, hw]) connfd).bind (fun ok w₂ m b h => ?_) fun e s m b h => ?_
  · cases ok with
    | true => exact runs_pure fun _ => by rw [List.append_nil]; exact h trivial
    | false => exact spends_raise fun _ => by rw [marks, List.filter_nil, List.append_nil]; exact h trivial
  · cases e with
    | raised e => exact h
    | lost l => exact False.elim

/-- The payload goes into the packet: if it is empty it is the template's own. -/
theorem encode_bind (hM : ClientAgreement own M) {f : Ptr × BinarySafeString → Prog Sock α} (str : Ptr) {its : Ptr}
    {payload : BinarySafeString} {addrTemplate : ClientQuery}
    {P : Except (Halt String Lost) α → Store Sock → List Event → List Block → Prop}
    (hits : payload.length ≠ 0 ∨ its = str)
    (hok : ∀ cq enc dat w', w'.store = w.store → Runs (f (some enc, dat)) w' [enc]
      fun r s m c => P r s (⟨.encoded cq, dat⟩ :: m) c)
    (hlost : ∀ l s m b, P (.error (.lost l)) s m b) :
    Runs (encode M str payload its addrTemplate >>= f) w str.toList P := by
  unfold encode
  split
  · exact hM.encode.bind str (hok _) hlost
  · next h =>
    obtain rfl := hits.resolve_left h
    exact hM.encode.bind its (hok _) hlost

theorem leaves_sendEncoded {left : Event → Nat} {q : Event → Prop} (hp : ∀ e, Native.Quiet e ∧ Preparing e →
    q (embed e) ∧ left (embed e) = 0) (connfd : Nat) (dat : BinarySafeString) :
    Leaves left q (sendEncoded env connfd dat) := by
  have hsend : ∀ (env' : Env Native.Outcome) bs,
      Only (fun e => Native.Quiet e ∧ Preparing e) (Native.sendnEx env' connfd bs : Native.Session Sock Unit) := by
    intro env' bs
    refine (only_perform fun r => ⟨trivial, trivial⟩).bind fun r => ?_
    cases r with
    | false => exact only_raise _
    | true => exact only_pure _
  exact leaves_lift (fun env' => (hsend env' _).bind fun _ => hsend env' _) hp

/-- The query is freed, and its answer is not. -/
theorem leaves_dnsPkgs (hM : ClientAgreement own M) (connfd : Nat) (rawAddr : AddrInfo) :
    Leaves forgotten Early (dnsPkgs env M connfd rawAddr) := by
  unfold dnsPkgs
  split
  · exact leaves_pure _
  intro w
  refine runs_mallocd_bind (fun _ _ _ _ => False.elim) fun b w₁ s₁ => ?_
  refine encode_bind hM (some b) (.inr rfl) (fun cq enc dat w₂ s₂ => ?_) fun _ _ _ _ => False.elim
  -- what stands under the scope guard of `firstPack`
  refine Spends.imp ((?_ : Leaves forgotten Early _).freeing (p := some enc) (a := [])) fun r s u b h hr => ?_
  · refine (leaves_sendEncoded (fun _ h => preparing_silent h.2) connfd dat).bind fun _ => ?_
    refine (leaves_lift (fun env' => preparing_recvnEx env' connfd 4) fun _ => preparing_silent).bind fun length w => ?_
    refine runs_malloc_bind fun pack w₁ s₁ => ?_
    refine runs_mark_bind (fun _ => rfl) fun reply w₂ s₂ => ?_
    rw [List.append_nil]
    cases reply with
    | none =>
      refine spends_raise fun _ => Leftover.cons ⟨rfl, rfl, rfl⟩ (leftover_nil (by rw [s₂, s₁]) ?_)
      cases pack <;> rfl
    | some bs =>
      refine hM.decode.bind (fun payload query w₃ s₃ hp => ?_) fun _ _ _ _ => False.elim
      have hcount : payload.toList.length = forgotten ⟨.decoded (.ofBlock bs.1), query⟩ := by
        show _ = if query.payload.length ≠ 0 then 1 else 0
        cases payload with
        | none =>
          rw [if_neg fun h => Bool.false_ne_true (hp.2 h)]
          rfl
        | some p =>
          rw [if_pos (hp.1 rfl)]
          rfl
      have hgood : Leaves forgotten Early (lift env fun _ =>
          Native.ofExcept (Socks5.goodAddr rawAddr query) : Prog Sock AddrInfo) :=
        leaves_lift (fun _ => (Native.steady_ofExcept _).only) fun _ => preparing_silent
      refine Spends.imp (hgood.runs (w := w₃) hcount) fun r s u b h hr => ?_
      refine Leftover.cons ⟨rfl, rfl, rfl⟩ (Leftover.cons ⟨rfl, rfl, rfl⟩ ?_)
      have hzero : forgotten ⟨.recvInto .dnsReply pack connfd (beNat length), some bs⟩ = 0 := by cases pack <;> rfl
      rw [hzero, Nat.zero_add, ← s₁, ← s₂, ← s₃]
      exact h hr
  · obtain ⟨b, rfl, hb⟩ := h hr
    refine Leftover.cons ⟨rfl, rfl, rfl⟩ ?_
    rw [← s₁, ← s₂]
    exact hb.frame rfl

/-- A buffer is lost if `read` fails. -/
theorem leaves_thisHopReadable (hM : ClientAgreement own M) (c : Front) (connfd : Nat) (template : ClientQuery) :
    Leaves unread Unclosed (thisHopReadable env M c connfd template) := by
  intro w
  rw [thisHopReadable, readall, bind_assoc]
  refine runs_malloc_bind fun vptr w₁ s₁ => ?_
  rw [bind_assoc]
  refine runs_mark_bind (fun _ => rfl) fun ret w₂ s₂ => ?_
  have hs : w₂.store.additionalInfo = w.store.additionalInfo := by rw [s₂, s₁]
  rw [List.append_nil]
  match ret with
  | none =>
    simp only [pure_bind]
    refine runs_free_bind (p := none) (.refl _) fun w₃ s₃ => ?_
    refine spends_raise fun _ => Leftover.cons rfl (leftover_nil (by rw [s₃, hs]) ?_)
    cases vptr <;> rfl
  | some ⟨[], hbs⟩ =>
    simp only [pure_bind]
    refine runs_free_bind (show vptr.toList.Perm (vptr.toList ++ []) by rw [List.append_nil]) fun w₃ s₃ => ?_
    refine runs_pure fun _ => Leftover.cons rfl (leftover_nil (by rw [s₃, hs]) ?_)
    cases vptr <;> rfl
  | some ⟨b :: bs, hbs⟩ =>
    have hlen : (BinarySafeString.ofBlock (b :: bs)).length ≠ 0 := by
      intro h
      have hcount := BinarySafeString.ofBlock_length (lt_of_le_of_lt hbs (by decide))
      rw [h] at hcount
      cases hcount
    simp only [pure_bind]
    refine encode_bind hM vptr (.inl hlen) (fun cq enc dat w₃ s₃ => ?_) fun _ _ _ _ => False.elim
    have hsend : Leaves unread Unclosed (sendEncoded env connfd dat >>= fun _ => pure true) :=
      (leaves_sendEncoded (fun _ h => quiet_silent h.1) connfd dat).bind fun _ => leaves_pure true
    refine Spends.imp (hsend.freeing (p := some enc) (a := [])) fun r s u b h hr => ?_
    obtain ⟨b, rfl, hb⟩ := h hr
    refine Leftover.cons rfl (Leftover.cons rfl ?_)
    have hzero : unread ⟨.readInto vptr c.mFd, some ⟨_ :: bs, hbs⟩⟩ = 0 := by cases vptr <;> rfl
    rw [hzero, ← s₁, ← s₂, ← s₃]
    exact hb.frame rfl

theorem leaves_nextHopReadable (hM : ClientAgreement own M) (c : Front) (connfd : Nat) :
    Leaves unread Unclosed (nextHopReadable env M c connfd) := by
  refine (leaves_lift (fun _ => (Native.steady_recvnEx connfd 4).only) fun _ => quiet_silent).bind fun binLen => ?_
  split
  · exact leaves_pure _
  intro w
  refine runs_malloc_bind fun bridgeBuffer w₁ s₁ => ?_
  refine runs_mark_bind (fun _ => rfl) fun data w₂ s₂ => ?_
  rw [List.append_nil]
  cases data with
  | none =>
    refine runs_free_bind (show bridgeBuffer.toList.Perm (bridgeBuffer.toList ++ []) by rw [List.append_nil]) fun w₃ s₃ => ?_
    exact spends_raise fun _ => Leftover.cons rfl (leftover_nil (by rw [s₃, s₂, s₁]) rfl)
  | some bs =>
    refine hM.decode.bind (fun payload query w₃ s₃ hp => ?_) fun _ _ _ _ => False.elim
    have hsend : Leaves unread Unclosed ((lift env fun env => Native.sendnEx env c.mFd query.payload.bytes) >>=
        fun _ => pure true : Prog Sock Bool) :=
      (leaves_lift (fun _ => (Native.steady_sendnEx c.mFd _).only) fun _ => quiet_silent).bind fun _ => leaves_pure true
    rw [← List.append_nil payload.toList]
    refine Spends.imp (hsend.freeing (p := payload) (a := [])) fun r s u b h hr => ?_
    obtain ⟨b, rfl, hb⟩ := h hr
    refine Leftover.cons rfl (Leftover.cons rfl ?_)
    rw [← s₁, ← s₂, ← s₃]
    exact hb.frame rfl

theorem leaves_passRound (hM : ClientAgreement own M) (c : Front) (connfd : Nat) (template : ClientQuery)
    (ready : Option (Bool × Bool)) : Leaves unread Unclosed (passRound env M c connfd template ready) := by
  rcases ready with _ | ⟨app, hop⟩
  · exact leaves_raise _
  · have happ : Leaves unread Unclosed (if app then thisHopReadable env M c connfd template else pure true) := by
      split
      · exact leaves_thisHopReadable hM c connfd template
      · exact leaves_pure _
    refine happ.bind fun up => ?_
    cases up with
    | false => exact leaves_pure _
    | true =>
      simp only [Bool.not_true, Bool.false_eq_true, if_false]
      split
      · exact leaves_nextHopReadable hM c connfd
      · exact leaves_pure _

/-- Every round, and so the loop. -/
theorem leaves_passLoop (hM : ClientAgreement own M) (c : Front) (connfd : Nat) (template : ClientQuery) (fuel : Nat) :
    Leaves unread Unclosed (passLoop env M c connfd template fuel) := by
  induction fuel with
  | zero => exact leaves_lose _
  | succ fuel ih =>
    refine (leaves_mark (c := .other (.select _)) (fun _ => rfl) (fun _ => rfl) fun _ => rfl).bind fun ready => ?_
    refine (leaves_passRound hM c connfd template ready).bind fun up => ?_
    cases up with
    | false => exact leaves_pure _
    | true => exact ih

/-- The calls of the relay: none, or the first of them is `select`. -/
def Relay (m : List Event) : Prop := (m = [] ∨ ∃ rset r m', m = ⟨.other (.select rset), r⟩ :: m') ∧ ∀ e ∈ m, Unclosed e

theorem passLoop_runs (hM : ClientAgreement own M) (c : Front) (connfd : Nat) (template : ClientQuery) (fuel : Nat) :
    Runs (passLoop env M c connfd template fuel) w [] fun r s m b => Settled r →
      Relay m ∧ s.additionalInfo = w.store.additionalInfo ∧ b.length = total unread m := by
  cases fuel with
  | zero => exact spends_lose False.elim
  | succ fuel =>
    have hrest : ∀ ready, Leaves unread Unclosed (do
        if ← passRound env M c connfd template ready then passLoop env M c connfd template fuel else return ()) := by
      intro ready
      refine (leaves_passRound hM c connfd template ready).bind fun up => ?_
      cases up with
      | false => exact leaves_pure _
      | true => exact leaves_passLoop hM c connfd template fuel
    refine runs_mark_bind (c := .other (.select _)) (fun _ => rfl) fun ready w₁ s₁ => ?_
    refine Spends.imp (hrest ready w₁) fun r s u b h hr => ?_
    obtain ⟨hs, hm, hb⟩ := h hr
    refine ⟨⟨.inr ⟨_, ready, _, rfl⟩, List.forall_mem_cons.2 ⟨rfl, hm⟩⟩, by rw [hs, s₁], ?_⟩
    rw [hb, total, total, List.map_cons, List.sum_cons]
    rfl

/-- DNS and relay: what is left of either. -/
def Used (ai : Ptr) (s : Store Sock) (m : List Event) (b : List Block) : Prop :=
  s.additionalInfo = ai ∧ ∃ m₁ m₂, m = m₁ ++ m₂ ∧ (∀ e ∈ m₁, Early e) ∧ Relay m₂ ∧
    b.length = total forgotten m₁ + total unread m₂

theorem used_of_leftover {ai : Ptr} {s : Store Sock} {m : List Event} {b : List Block}
    (h : Leftover forgotten Early ai 0 s m b) : Used ai s m b := by
  refine ⟨h.info, m, [], (List.append_nil m).symm, h.calls, ⟨.inl rfl, by simp⟩, ?_⟩
  rw [h.count, Nat.zero_add]
  rfl

theorem used_runs (hM : ClientAgreement own M) (c : Front) (connfd : Nat) (rawAddr : AddrInfo) (fuel : Nat) :
    Runs (do
      let resolvedAddr ← dnsPkgs env M connfd rawAddr
      passData env M c connfd resolvedAddr fuel) w [] fun r s m b => Settled r → Used w.store.additionalInfo s m b := by
  have hprep : ∀ resolvedAddr, Leaves forgotten Early (lift env fun _ =>
      Native.ofExcept (AddrInfo.toQueryTemplate resolvedAddr) : Prog Sock ClientQuery) := fun resolvedAddr =>
    leaves_lift (fun _ => (Native.steady_ofExcept _).only) fun _ => preparing_silent
  have hsame : (do
      let resolvedAddr ← dnsPkgs env M connfd rawAddr
      passData env M c connfd resolvedAddr fuel) = (do
      let template ← (do
        let resolvedAddr ← dnsPkgs env M connfd rawAddr
        lift env fun _ => Native.ofExcept (AddrInfo.toQueryTemplate resolvedAddr))
      passLoop env M c connfd template fuel) := by
    rw [bind_assoc]
    rfl
  rw [hsame]
  refine ((leaves_dnsPkgs hM connfd rawAddr).bind hprep w).bind (fun template w₁ m₁ b h => ?_) fun e s m b h hr => ?_
  · obtain ⟨hs, hm, hb⟩ := h trivial
    refine Spends.imp ((passLoop_runs hM c connfd template fuel).frame b) fun r s u c h hr => ?_
    obtain ⟨c, rfl, hc⟩ := h
    obtain ⟨hrelay, hs', hc⟩ := hc hr
    refine ⟨by rw [hs', hs], m₁, _, rfl, hm, hrelay, ?_⟩
    rw [List.length_append, hc, hb]
    omega
  · cases e with
    | raised e => exact used_of_leftover (h trivial)
    | lost l => cases hr

/-- The destructor takes `additional_info` and the `connect_info`. -/
theorem destroySnakeConnection_runs (hM : ClientAgreement own M) (hown : own w.store.additionalInfo) {myConnInfo : Ptr}
    {connfd : Nat} {a junk : List Block} (ha : a.Perm (w.store.additionalInfo.toList ++ (myConnInfo.toList ++ junk))) :
    Runs (destroySnakeConnection env M myConnInfo connfd) w a fun r _ m b => r = .ok () ∧ b = junk ∧
      ∃ fin, m = ⟨.other .clientClose, ()⟩ :: fin ∧ (fin = [] ∨ fin = [⟨.other (.close connfd), ()⟩]) := by
  refine runs_mark_bind (fun _ => rfl) fun _ w₁ s₁ => ?_
  refine (hM.connectionClose.runs (by rwa [s₁]) (by rwa [s₁])).bind ?_ ?_
  · rintro - w₂ m b ⟨-, -, rfl, rfl⟩
    refine runs_free_bind (.refl _) fun w₃ s₃ => ?_
    split
    · rw [← bind_pure (perform env (.other (.close connfd)))]
      refine runs_mark_bind (fun _ => rfl) fun _ w₄ s₄ => ?_
      exact runs_pure ⟨rfl, rfl, _, rfl, .inr rfl⟩
    · exact runs_pure ⟨rfl, rfl, _, rfl, .inl rfl⟩
  · rintro e s m b ⟨-, hr, -⟩
    cases hr

/-- Blocks left by a session, its `connect_info` apart. -/
def relayLeft (u : List Event) : Nat := total forgotten (u.takeWhile (!isSelect ·)) + total unread u

/-- A call that counts nowhere. -/
def Silent (e : Event) : Prop := isSelect e = false ∧ forgotten e = 0 ∧ unread e = 0

theorem relayLeft_cons {e : Event} {u : List Event} (he : isSelect e = false) :
    relayLeft (e :: u) = forgotten e + unread e + relayLeft u := by
  rw [relayLeft, relayLeft, List.takeWhile_cons_of_pos (by rw [he]; rfl), total, total, total, total, List.map_cons,
    List.map_cons, List.sum_cons, List.sum_cons]
  omega

theorem relayLeft_silent {v : List Event} (hv : ∀ e ∈ v, Silent e) (u : List Event) : relayLeft (v ++ u) = relayLeft u := by
  induction v with
  | nil => rfl
  | cons e v ih =>
    obtain ⟨hs, hf, hu⟩ := hv e List.mem_cons_self
    rw [List.cons_append, relayLeft_cons hs, hf, hu, ih fun e he => hv e (List.mem_cons_of_mem _ he)]
    omega

theorem relayLeft_early {m : List Event} (hm : ∀ e ∈ m, Early e) (u : List Event) :
    relayLeft (m ++ u) = total forgotten m + relayLeft u := by
  induction m with
  | nil => exact (Nat.zero_add _).symm
  | cons e m ih =>
    obtain ⟨hs, -, hu⟩ := hm e List.mem_cons_self
    rw [List.cons_append, relayLeft_cons hs, hu, ih fun e he => hm e (List.mem_cons_of_mem _ he), total, total,
      List.map_cons, List.sum_cons]
    omega

theorem relayLeft_relay {m fin : List Event} (hm : Relay m) (hfin : ∀ e ∈ fin, Silent e) :
    relayLeft (m ++ fin) = total unread m := by
  have hzero : relayLeft fin = 0 := by
    rw [← List.append_nil fin, relayLeft_silent hfin]
    rfl
  obtain ⟨rfl | ⟨rset, r, m', rfl⟩, -⟩ := hm
  · exact hzero
  · have hfin' : total unread fin = 0 := by
      rw [relayLeft] at hzero
      omega
    rw [relayLeft, List.cons_append, List.takeWhile_cons_of_neg (by exact Bool.false_ne_true), ← List.cons_append,
      total_append, hfin']
    exact Nat.zero_add _

theorem any_isClientClose {m : List Event} (h : ∀ e ∈ m, Early e) : m.any isClientClose = false :=
  List.any_eq_false.2 fun e he => by rw [(h e he).2.1]; exact Bool.false_ne_true

/-- The session behind `initConnInfo`, with the block of the `connect_info`. -/
theorem connected_runs (hM : ClientAgreement own M) (hown : own none) (hw : w.store.additionalInfo = none) (c : Front)
    (rawAddr : AddrInfo) (fuel : Nat) (myConnInfo : Block) :
    Runs (do
      let connfd ← connect env M c
      deferring (destroySnakeConnection env M (some myConnInfo) connfd) do
        let resolvedAddr ← dnsPkgs env M connfd rawAddr
        passData env M c connfd resolvedAddr fuel) w [myConnInfo] fun r s m b => Settled r →
      b.length = relayLeft m + if m.any isClientClose then 0 else 1 + s.additionalInfo.toList.length := by
  refine ((connect_runs hM hown hw c).framed [myConnInfo]).bind ?_ ?_
  · rintro connfd w₁ m _ ⟨b, rfl, h⟩
    obtain ⟨hown₁, hm, junk, hb, hj⟩ := h trivial
    refine Spends.guarded ((used_runs hM c connfd rawAddr fuel).frame (b ++ [myConnInfo])) ?_ fun l s u b _ => False.elim
    rintro r w₂ u _ hr ⟨b₂, rfl, hb₂⟩
    have hused : Used w₁.store.additionalInfo w₂.store (marks u) b₂ := by
      match r, hr with
      | .ok _, _ => exact hb₂ trivial
      | .error (.raised _), _ => exact hb₂ trivial
      | .error (.lost l), hr => exact absurd rfl (hr l)
    obtain ⟨hs, m₁, m₂, hmarks, hm₁, hm₂, hlen⟩ := hused
    have hperm : (b₂ ++ (b ++ [myConnInfo])).Perm
        (w₂.store.additionalInfo.toList ++ ((some myConnInfo).toList ++ (b₂ ++ junk))) := by
      rw [hs]
      refine ((hb.append_right [myConnInfo]).append_left b₂).trans ?_
      refine List.perm_iff_count.2 fun x => ?_
      simp only [List.count_append, Option.toList_some]
      omega
    refine Spends.imp (destroySnakeConnection_runs hM (by rwa [hs]) hperm) fun rc s u' b' hb' => ?_
    obtain ⟨hrc, rfl, fin, hfin, hclose⟩ := hb'
    have hsilent : ∀ e ∈ marks u', Silent e := by
      rw [hfin]
      refine List.forall_mem_cons.2 ⟨⟨rfl, rfl, rfl⟩, ?_⟩
      rcases hclose with rfl | rfl
      · exact nofun
      · exact List.forall_mem_singleton.2 ⟨rfl, rfl, rfl⟩
    have hany : (marks u').any isClientClose = true := by
      rw [hfin]
      rfl
    refine ⟨hrc, fun _ => ?_⟩
    rw [marks_append, hmarks, List.append_assoc, List.any_append, List.any_append, List.any_append, hany, Bool.or_true,
      Bool.or_true, Bool.or_true, if_pos rfl, relayLeft_early hm, relayLeft_early hm₁, relayLeft_relay hm₂ hsilent,
      List.length_append, hlen, hj]
    omega
  · rintro e s m _ ⟨b, rfl, h⟩ hr
    obtain ⟨-, hm, junk, hb, hj⟩ := h (by cases e <;> trivial)
    have hrelay : relayLeft m = total forgotten m := by
      have := relayLeft_early hm []
      rwa [List.append_nil] at this
    rw [any_isClientClose hm, hrelay, List.length_append, hb.length_eq, List.length_append, hj, List.length_singleton]
    simp only [Bool.false_eq_true, if_false]
    omega

/-- The block of the `connect_info`: the first one a session asks for. -/
def connInfo : List Event → Ptr
  | [] => none
  | ⟨.malloc _, p⟩ :: _ => p
  | _ :: u => connInfo u

/-- What a whole session leaves: without the destructor the `connect_info` and `additional_info` too. -/
def SessionLeft (r : Except (Halt String Lost) α) (s : Store Sock) (u : List Event) (b : List Block) : Prop :=
  Settled r → b.length = relayLeft u +
    if u.any isClientClose then 0 else (connInfo u).toList.length + s.additionalInfo.toList.length

theorem unmarked_silent {e : Event} (h : isMark e = false) : Silent e ∧ isClientClose e = false := by
  obtain ⟨call, r⟩ := e
  cases call <;> first | exact ⟨⟨rfl, rfl, rfl⟩, rfl⟩ | cases h

theorem relayLeft_marks (u : List Event) : relayLeft (marks u) = relayLeft u := by
  induction u with
  | nil => rfl
  | cons e u ih =>
    cases he : isMark e with
    | true =>
      rw [marks, List.filter_cons_of_pos he]
      cases hs : isSelect e with
      | false =>
        rw [relayLeft_cons hs, relayLeft_cons hs]
        exact congrArg (forgotten e + unread e + ·) ih
      | true =>
        have htotal : total unread (marks u) = total unread u :=
          total_marks (fun e he => (unmarked_silent he).1.2.2) u
        rw [relayLeft, relayLeft, List.takeWhile_cons_of_neg (by simp [hs]), List.takeWhile_cons_of_neg (by simp [hs]),
          total, total, total, List.map_cons, List.map_cons, List.sum_cons, List.sum_cons]
        exact congrArg (fun n => _ + (unread e + n)) htotal
    | false =>
      rw [marks, List.filter_cons_of_neg (by rw [he]; exact Bool.false_ne_true)]
      refine ih.trans (relayLeft_silent (v := [e]) ?_ u).symm
      exact List.forall_mem_singleton.2 (unmarked_silent he).1

theorem any_isClientClose_marks (u : List Event) : (marks u).any isClientClose = u.any isClientClose := by
  rw [marks, List.any_filter]
  congr 1
  funext e
  obtain ⟨call, r⟩ := e
  cases call <;> rfl

/-- `new connect_info`, and the session behind it. -/
theorem withNextHop_spends (hM : ClientAgreement own M) (hown : own none) (hw : w.store.additionalInfo = none) (c : Front)
    (rawAddr : AddrInfo) (fuel : Nat) :
    Spends (Moves heapChange) (withNextHop env M c rawAddr fuel) w [] SessionLeft := by
  rw [withNextHop, snakeConnection, initConnInfo, bind_assoc, bind_assoc]
  refine Spends.bind (spends_perform (Q := fun r s u b => s = w.store ∧ ∃ p : Ptr, r = .ok p ∧
    u = [⟨.malloc connectInfoSize, p⟩] ∧ b = p.toList) ⟨_, ⟨rfl, _, rfl, rfl, rfl⟩, ?_⟩) ?_ ?_
  · cases env w.trace (.malloc connectInfoSize) with
    | none => exact moves_keeps rfl
    | some b => exact moves_opens rfl
  · rintro p w₁ u b ⟨hs, p', hp, rfl, rfl⟩
    cases hp
    cases p with
    | none =>
      refine spends_raise fun _ => ?_
      rw [hs, hw]
      rfl
    | some b =>
      simp only [pure_bind, bind_assoc]
      refine Spends.imp (connected_runs hM hown (by rw [hs, hw]) c rawAddr fuel b) fun r s u c h hr => ?_
      have hlen := h hr
      rw [relayLeft_marks, any_isClientClose_marks] at hlen
      rw [relayLeft_silent (v := [_]) (List.forall_mem_singleton.2 ⟨rfl, rfl, rfl⟩)]
      exact hlen
  · rintro e s u b ⟨-, p, hp, -⟩
    cases hp

/-- Records of the front end count nowhere. -/
theorem SessionLeft.front {r : Except (Halt String Lost) α} {s : Store Sock} {v : List Native.Event} {u : List Event}
    {b : List Block} (hv : ∀ e ∈ v, Native.Fronting e) (h : SessionLeft r s u b) : SessionLeft r s (v.map embed ++ u) b := by
  induction v with
  | nil => exact h
  | cons e v ih =>
    have he := hv e List.mem_cons_self
    have ih := ih fun e he => hv e (List.mem_cons_of_mem _ he)
    intro hr
    obtain ⟨call, o⟩ := e
    have hsilent : Silent (embed ⟨call, o⟩) ∧ isClientClose (embed ⟨call, o⟩) = false := by
      cases call <;> first | exact ⟨⟨rfl, rfl, rfl⟩, rfl⟩ | cases he
    rw [List.map_cons, List.cons_append, List.any_cons, hsilent.2, Bool.false_or,
      ← List.singleton_append, relayLeft_silent (List.forall_mem_singleton.2 hsilent.1)]
    exact ih hr

theorem relayLeft_snoc {e : Event} (he : Silent e) (u : List Event) : relayLeft (u ++ [e]) = relayLeft u := by
  induction u with
  | nil => exact relayLeft_silent (List.forall_mem_singleton.2 he) []
  | cons x u ih =>
    cases hs : isSelect x with
    | false => rw [List.cons_append, relayLeft_cons hs, relayLeft_cons hs, ih]
    | true =>
      rw [relayLeft, relayLeft, total_append, List.cons_append, List.takeWhile_cons_of_neg (by simp [hs]),
        List.takeWhile_cons_of_neg (by simp [hs])]
      show _ + (_ + (unread e + 0)) = _
      rw [he.2.2]
      rfl

theorem connInfo_close (u : List Event) (fd : Nat) : connInfo (u ++ [⟨.other (.close fd), ()⟩]) = connInfo u := by
  induction u with
  | nil => rfl
  | cons e u ih =>
    obtain ⟨call, r⟩ := e
    cases call <;> first | rfl | exact ih

theorem SessionLeft.close {s : Store Sock} {u : List Event} {b : List Block} {r : Except (Halt String Lost) α} {fd : Nat}
    (h : SessionLeft r s u b) : SessionLeft r s (u ++ [⟨.other (.close fd), ()⟩]) b := by
  intro hr
  rw [relayLeft_snoc ⟨rfl, rfl, rfl⟩, connInfo_close, List.any_append, h hr]
  show _ = _ + if (_ || false) = true then 0 else _
  rw [Bool.or_false]

theorem launch_spends (hM : ClientAgreement own M) (hown : own none) (hw : w.store.additionalInfo = none) (c : Front)
    (junk : Nat → UInt8) (fuel : Nat) :
    Spends (Moves heapChange) (launch env M c junk fuel) w [] SessionLeft := by
  have hbody : Spends (Moves heapChange) (do
      let rawAddr ← frontPkgs env junk
      withNextHop env M c rawAddr fuel) w [] SessionLeft := by
    refine Spends.bind (lift_spends (p := Native.Fronting) fun env' => ?_) ?_ ?_
    · refine (Native.only_writing (fun _ => trivial) _).bind fun _ => ?_
      exact Native.only_connectPkgs (fun _ _ _ => trivial) (fun _ => trivial) junk
    · rintro rawAddr w₁ _ _ ⟨hs, rfl, v, rfl, hv⟩
      refine Spends.imp (withNextHop_spends hM hown (hs.trans hw) c rawAddr fuel) fun r s u b h => h.front hv
    · rintro e s _ _ ⟨hs, rfl, v, rfl, hv⟩
      rw [← List.append_nil (v.map embed)]
      refine SessionLeft.front hv fun _ => ?_
      rw [hs, hw]
      rfl
  refine Spends.catching hbody (fun _ _ _ _ h => h) ?_ fun _ _ _ _ _ => False.elim
  intro e w₁ u b h
  refine spends_pure fun _ => ?_
  rw [List.append_nil]
  exact h trivial

theorem dealConnection_spends (hM : ClientAgreement own M) (hown : own none) (hw : w.store.additionalInfo = none)
    (c : Front) (junk : Nat → UInt8) (fuel : Nat) :
    Spends (Moves heapChange) (dealConnection env M c junk fuel) w [] SessionLeft := by
  refine Spends.guarded (launch_spends hM hown hw c junk fuel) ?_ fun _ _ _ _ _ => False.elim
  intro r w₁ u b hr h
  exact spends_perform ⟨b, ⟨rfl, h.close⟩, moves_keeps rfl⟩

end

/-- In every run of a session on `skcli`, with either module, nothing is freed that is not allocated, and the blocks that are
left can be told from its calls. -/
theorem clientSession_heap (which : Shipped) (env : Env Outcome) (c : Front) (junk : Nat → UInt8) (fuel : Nat)
    (sock : Sock) :
    Ends (dealConnection env (which.client env) c junk fuel) ⟨⟨sock, none⟩, []⟩ fun r s u =>
      ∃ held, openAfter heapChange [] u = some held ∧ SessionLeft r s u held := by
  obtain ⟨own, hown, hM⟩ : ∃ own, own none ∧ ClientAgreement own (which.client env) := which.clientAgreement
  refine Ends.imp (dealConnection_spends hM hown rfl c junk fuel) fun r s u h => ?_
  obtain ⟨b, hb, hm⟩ := h
  obtain ⟨held, ho, hp⟩ := hm.openAfter
  exact ⟨held, ho, fun hr => by rw [hp.length_eq, hb hr]⟩

end SnakeSocks.LaunchHeap
