import SnakeSocks.Native.Launch

/-!
# What follows a refused greeting

`handshake_pkgs` answers `05 FF` when method 0 is not offered, and returns as if nothing had happened: `launch` goes on to
`connect_pkgs`. `negotiation_iff` says for which peers that stays without consequences.
-/

namespace SnakeSocks.Native

open ByteLib CMem Effects
open Sio (Sock delivered takes)
open Socks5 (AddrInfo Parsable RequestOverruns GreetingComplete GreetingOverruns)

/-- The stream starts with VER 5, the count `n` and `n` methods. -/
def Greeting (d : Bytes) (n : Nat) : Prop := d.getD 0 0 = 5 ∧ (d.getD 1 0).toNat = n ∧ 2 + n ≤ d.length

/-- A request was parsed, whatever its command (BIND too), something of a success reply was sent, or a tunnel connection was
opened. -/
def Proceeds (e : Event) : Prop :=
  match e with
  | ⟨.parsed _ _ _, _⟩ => True
  | ⟨.wrote .connect bs, _⟩ => bs ≠ []
  | ⟨.connect _ _, ok⟩ => ok = true
  | _ => False

def traceOf : EStateM.Result (Halt String Lost) (World Outcome Sock) Unit → List Event
  | .ok _ w => w.trace
  | .error _ w => w.trace

def Undefined (r : EStateM.Result (Halt String Lost) (World Outcome Sock) Unit) : Prop :=
  ∃ f w, r = .error (.lost (.fault f)) w

/-- The reply to a greeting of `n` methods, and what it means for the rest of the run. -/
structure Negotiates (env : Env Outcome) (c : Front) (junk : Nat → UInt8) (fuel : Nat) (s : Sock) (n : Nat) : Prop where
  /-- Exactly the greeting is consumed, and the reply says whether method 0 is among the `n`. -/
  answered : ∃ s₁, delivered s₁.inp = (delivered s.inp).drop (2 + n) ∧ s₁.outp = s.outp ∧ s₁.sent = s.sent ∧
    Socks5.handshakePkgs s = Sio.sendnEx [5, if 0 ∈ slice (delivered s.inp) 2 n then 0 else 255] s₁
  /-- Behind a refusal nothing goes on. -/
  final : ∀ pre post, traceOf (launch env c junk fuel ⟨s, []⟩) = pre ++ ⟨.wrote .handshake [5, 255], ()⟩ :: post →
    ¬Undefined (launch env c junk fuel ⟨s, []⟩) ∧ ∀ e ∈ post, ¬Proceeds e

section
variable {env : Env Outcome} {c : Front} {junk : Nat → UInt8} {fuel : Nat} {s : Sock} {n : Nat}

/-! ## The reply -/

/-- A count of 128 and more never gets its reply. -/
theorem unanswered_of_large (hg : Greeting (delivered s.inp) n) (hn : 128 ≤ n) (reply : Bytes) (s₁ : Sock) :
    Socks5.handshakePkgs s ≠ Sio.sendnEx reply s₁ := by
  obtain ⟨hv, hc, hl⟩ := hg
  intro h
  have hnc : ¬GreetingComplete (delivered s.inp) := by
    rintro ⟨-, h128, -⟩
    omega
  have hends : (∃ s', Sio.sendnEx reply s₁ = .ok () s') ∨ ∃ s', Sio.sendnEx reply s₁ = .error (.exn "sendn failed.") s' := by
    cases ht : takes s₁.outp reply.length with
    | true =>
      obtain ⟨s', e', -, -⟩ := Sio.sendnEx_ok ht
      exact .inl ⟨s', e'⟩
    | false =>
      obtain ⟨s', -, e', -, -⟩ := Sio.sendnEx_fails ht
      exact .inr ⟨s', e'⟩
  by_cases ho : GreetingOverruns (delivered s.inp)
  · obtain ⟨s', e'⟩ := Socks5.handshakePkgs_overruns rfl ho
    rw [e'] at h
    rcases hends with ⟨s'', e''⟩ | ⟨s'', e''⟩
    · rw [e''] at h
      cases h
    · rw [e''] at h
      cases h
  · obtain ⟨what, s', e', hwhat⟩ := Socks5.handshakePkgs_rejects rfl hnc ho
    rw [e'] at h
    rcases hends with ⟨s'', e''⟩ | ⟨s'', e''⟩
    · rw [e''] at h
      cases h
    · rw [e''] at h
      cases h
      exact hwhat rfl

theorem Greeting.complete (hg : Greeting (delivered s.inp) n) (hn : n < 128) : GreetingComplete (delivered s.inp) := by
  obtain ⟨hv, hc, hl⟩ := hg
  exact ⟨hv, by omega, by omega⟩

theorem Greeting.answered (hg : Greeting (delivered s.inp) n) (hn : n < 128) :
    ∃ s₁, delivered s₁.inp = (delivered s.inp).drop (2 + n) ∧ s₁.outp = s.outp ∧ s₁.sent = s.sent ∧
      Socks5.handshakePkgs s = Sio.sendnEx [5, if 0 ∈ slice (delivered s.inp) 2 n then 0 else 255] s₁ := by
  have h := Socks5.handshakePkgs_complete rfl (hg.complete hn)
  rwa [hg.2.1] at h

/-! ## Behind the reply -/

/-- A record of anything but a reply to a greeting. -/
def NotHandshake (e : Event) : Prop := ∀ bs, e ≠ ⟨.wrote .handshake bs, ()⟩

theorem Quiet.notHandshake {e : Event} (h : Quiet e) : NotHandshake e := by
  rintro bs rfl
  cases h

theorem Dialling.notHandshake {e : Event} (h : Dialling e) : NotHandshake e := by
  rintro bs rfl
  cases h

theorem only_newConnection (c : Front) : Only NotHandshake (newConnection env c) := by
  intro w
  refine (connectAny_ends env c.serverAddr c.serverPort w).imp fun r _ u h => ?_
  obtain ⟨-, h⟩ := h
  cases r with
  | error e => exact fun e he => ((h.of_error (m := 0)).1 e he).notHandshake
  | ok fd =>
    obtain ⟨d, rp, rfl, hd, -, -⟩ := h.of_ok (m := 0)
    intro e he
    simp only [List.mem_append, List.mem_cons, List.not_mem_nil, or_false] at he
    rcases he with he | rfl | rfl
    · exact (hd e he).notHandshake
    · simp [NotHandshake]
    · simp [NotHandshake]

theorem only_doAuth (connfd : Nat) : Only NotHandshake (doAuth env connfd) := by
  refine (only_perform fun r => by simp [NotHandshake]).bind fun r => ?_
  refine (steady_orThrow _ _).only.bind fun authdat => ?_
  refine ((steady_sendAuthQuery connfd authdat).only.imp fun _ h => h.notHandshake).bind fun _ => ?_
  refine ((steady_recvAuthReply connfd).only.imp fun _ h => h.notHandshake).bind fun rbuf => ?_
  refine (only_perform fun r => by simp [NotHandshake]).bind fun r => ?_
  exact (steady_orThrow _ _).only

theorem only_destroy (connfd : Nat) : Only NotHandshake (destroySnakeConnection env connfd) := by
  refine (only_perform fun r => by simp [NotHandshake]).bind fun r => ?_
  split
  · exact only_perform fun r => by simp [NotHandshake]
  · exact only_pure _

theorem only_withNextHop (c : Front) (rawAddr : AddrInfo) (fuel : Nat) :
    Only NotHandshake (withNextHop env c rawAddr fuel) := by
  have hnew : Only NotHandshake (snakeConnection env c) := by
    refine (only_newConnection c).bind fun connfd => ?_
    refine (only_doAuth connfd).bind fun ok => ?_
    cases ok with
    | false => exact only_raise _
    | true => exact only_pure _
  refine hnew.bind fun nextHop => (only_destroy nextHop).deferring ?_
  refine ((steady_dnsPkgs nextHop rawAddr).only.imp fun _ h => h.notHandshake).bind fun a => ?_
  exact (steady_passData c nextHop a fuel).only.imp fun _ h => h.notHandshake

/-- `launch` behind the greeting. -/
def afterHandshake (env : Env Outcome) (c : Front) (junk : Nat → UInt8) (fuel : Nat) : Session Sock Unit :=
  catching (fun _ => pure ()) do
    let rawAddr ← connectPkgs env junk
    withNextHop env c rawAddr fuel

theorem launch_eq {w w₁ : World Outcome Sock} (h : handshakePkgs env w = .ok () w₁) :
    launch env c junk fuel w = afterHandshake env c junk fuel w₁ := by
  rw [launch, afterHandshake, catching, catching, bind_of_ok h]

theorem traceOf_only {p : Event → Prop} {x : Session Sock Unit} (hx : Only p x) (w : World Outcome Sock) :
    ∃ u, traceOf (x w) = w.trace ++ u ∧ ∀ e ∈ u, p e := by
  cases hr : x w with
  | ok a w' => exact (hx w).ok hr
  | error e w' => exact (hx w).error hr

theorem only_afterHandshake : Only NotHandshake (afterHandshake env c junk fuel) := by
  refine Only.catching ?_ fun _ => only_pure ()
  refine (only_connectPkgs ?_ ?_ junk).bind fun a => only_withNextHop c a fuel
  · simp [NotHandshake]
  · simp [NotHandshake]

/-- A parsable request is parsed, whatever was answered before. -/
theorem afterHandshake_parsed {w : World Outcome Sock} {t : Bytes} {m : Nat} (hd : delivered w.store.inp = t)
    (h : Parsable t m) :
    ∃ u, traceOf (afterHandshake env c junk fuel w) =
      w.trace ++ ⟨.parsed (t.getD 1 0) (t.getD 3 0) (Socks5.addrOf t), ()⟩ :: u := by
  obtain ⟨s', -, -, -, e⟩ := @connectPkgs_parsed env w t m junk hd h
  obtain ⟨w', hw⟩ : ∃ w' : World Outcome Sock,
      w' = ⟨s', w.trace ++ [⟨.parsed (t.getD 1 0) (t.getD 3 0) (Socks5.addrOf t), ()⟩]⟩ := ⟨_, rfl⟩
  rw [← hw] at e
  have hrest : Only (fun _ => True) (catching (fun _ => pure ()) do
      let rawAddr ← writing env .connect
        (Socks5.replyRequest (filled (t.take m) (263 - m)) (m - 6) (t.getD 1 0) (Socks5.addrOf t))
      withNextHop env c rawAddr fuel) := by
    refine Only.catching ?_ fun _ => only_pure ()
    exact (only_writing (fun _ => trivial) _).bind fun a => (only_withNextHop c a fuel).imp fun _ _ => trivial
  have hsame : afterHandshake env c junk fuel w = (catching (fun _ => pure ()) do
      let rawAddr ← writing env .connect
        (Socks5.replyRequest (filled (t.take m) (263 - m)) (m - 6) (t.getD 1 0) (Socks5.addrOf t))
      withNextHop env c rawAddr fuel : Session Sock Unit) w' := by
    have hb : ∀ f : AddrInfo → Session Sock Unit, (connectPkgs env junk >>= f) w = (writing env .connect
        (Socks5.replyRequest (filled (t.take m) (263 - m)) (m - 6) (t.getD 1 0) (Socks5.addrOf t)) >>= f) w' := by
      intro f
      show EStateM.bind _ f w = EStateM.bind _ f w'
      rw [EStateM.bind, EStateM.bind, e]
    rw [afterHandshake, catching, catching, hb]
  obtain ⟨u, hu, -⟩ := traceOf_only hrest w'
  exact ⟨u, by rw [hsame, hu, hw]; simp⟩

/-- Any other stream ends the run there, and leaves a buffer exactly when it overruns. -/
theorem afterHandshake_unparsed {w : World Outcome Sock} {t : Bytes} (hd : delivered w.store.inp = t)
    (h : ∀ m, ¬Parsable t m) :
    traceOf (afterHandshake env c junk fuel w) = w.trace ∧
      (Undefined (afterHandshake env c junk fuel w) ↔ RequestOverruns t) := by
  obtain ⟨e, s', hp, hs⟩ := @connectPkgs_unparsed env w t junk hd h
  have hf := @Socks5.connectPkgs_faults_iff w.store t junk hd
  rw [hp] at hf
  have hb : ∀ f : AddrInfo → Session Sock Unit, (connectPkgs env junk >>= f) w = .error (haltOf e) ⟨s', w.trace⟩ :=
    fun f => bind_of_error hs
  rw [afterHandshake, catching, hb]
  cases e with
  | exn what =>
    refine ⟨rfl, ?_⟩
    rw [← hf]
    refine iff_of_false ?_ (fun h => h)
    rintro ⟨f, w', hr⟩
    cases hr
  | fault f =>
    refine ⟨rfl, ?_⟩
    rw [← hf]
    exact iff_of_true ⟨f, _, rfl⟩ trivial

/-- The refusal was sent: what the peer sends next decides. -/
theorem final_refused {w : World Outcome Sock} {t : Bytes} (hd : delivered w.store.inp = t)
    (hw : w.trace = [⟨.wrote .handshake [5, 255], ()⟩]) :
    (∀ pre post, traceOf (afterHandshake env c junk fuel w) = pre ++ ⟨.wrote .handshake [5, 255], ()⟩ :: post →
      ¬Undefined (afterHandshake env c junk fuel w) ∧ ∀ e ∈ post, ¬Proceeds e) ↔
      (∀ m, ¬Parsable t m) ∧ ¬RequestOverruns t := by
  by_cases hp : ∃ m, Parsable t m
  · obtain ⟨m, hm⟩ := hp
    refine iff_of_false (fun h => ?_) (fun h => h.1 m hm)
    obtain ⟨u, hu⟩ := @afterHandshake_parsed env c junk fuel w t m hd hm
    rw [hw] at hu
    exact (h [] _ hu).2 _ (List.mem_cons_self) trivial
  · have hp' : ∀ m, ¬Parsable t m := fun m hm => hp ⟨m, hm⟩
    obtain ⟨htr, hun⟩ := @afterHandshake_unparsed env c junk fuel w t hd hp'
    rw [htr, hw, hun]
    constructor
    · intro h
      exact ⟨hp', (h [] [] rfl).1⟩
    · rintro ⟨-, ho⟩ pre post h
      refine ⟨ho, ?_⟩
      have hl := congrArg List.length h
      have hpost : post = [] := by
        apply List.eq_nil_of_length_eq_zero
        simp at hl
        omega
      simp [hpost]

/-- The reply accepted the greeting: the condition is empty. -/
theorem final_accepted {w : World Outcome Sock} (hw : w.trace = [⟨.wrote .handshake [5, 0], ()⟩]) {pre post : List Event}
    (h : traceOf (afterHandshake env c junk fuel w) = pre ++ ⟨.wrote .handshake [5, 255], ()⟩ :: post) : False := by
  obtain ⟨u, hu, hn⟩ := traceOf_only (@only_afterHandshake env c junk fuel) w
  rw [hu, hw] at h
  have hm : (⟨.wrote .handshake [5, 255], ()⟩ : Event) ∈ [⟨.wrote .handshake [5, 0], ()⟩] ++ u := by
    rw [h]
    simp
  rcases List.mem_append.1 hm with hm | hm
  · simp at hm
  · exact hn _ hm _ rfl

/-- **Negotiation.** For every peer that sends a greeting, every environment and every continuation of the stream. -/
theorem negotiation_iff (env : Env Outcome) (c : Front) (junk : Nat → UInt8) (fuel : Nat) (s : Sock) (n : Nat)
    (hg : Greeting (delivered s.inp) n) :
    Negotiates env c junk fuel s n ↔ n < 128 ∧ (0 ∈ slice (delivered s.inp) 2 n ∨ takes s.outp 2 = false ∨
      ((∀ m, ¬Parsable ((delivered s.inp).drop (2 + n)) m) ∧ ¬RequestOverruns ((delivered s.inp).drop (2 + n)))) := by
  by_cases hn : n < 128
  swap
  · refine iff_of_false (fun h => ?_) (fun h => hn h.1)
    obtain ⟨s₁, -, -, -, e⟩ := h.answered
    exact unanswered_of_large hg (by omega) _ _ e
  have hans := hg.answered hn
  have hcomp := hg.complete hn
  have hsplit : Negotiates env c junk fuel s n ↔
      ∀ pre post, traceOf (launch env c junk fuel ⟨s, []⟩) = pre ++ ⟨.wrote .handshake [5, 255], ()⟩ :: post →
        ¬Undefined (launch env c junk fuel ⟨s, []⟩) ∧ ∀ e ∈ post, ¬Proceeds e :=
    ⟨fun h => h.final, fun h => ⟨hans, h⟩⟩
  rw [hsplit]
  cases ht : takes s.outp 2 with
  | false =>
    obtain ⟨s', bs, hl, e⟩ := @handshakePkgs_unsent env ⟨s, []⟩ _ rfl hcomp ht
    have hrun : launch env c junk fuel ⟨s, []⟩ = .ok () ⟨s', [⟨.wrote .handshake bs, ()⟩]⟩ := by
      rw [launch, catching, bind_of_error e]
      rfl
    refine iff_of_true (fun pre post h => ?_) ⟨hn, .inr (.inl rfl)⟩
    rw [hrun] at h
    have hm : (⟨.wrote .handshake [5, 255], ()⟩ : Event) ∈ [⟨.wrote .handshake bs, ()⟩] := by
      show _ ∈ traceOf (.ok () ⟨s', [⟨.wrote .handshake bs, ()⟩]⟩)
      rw [h]
      simp
    simp at hm
    simp [← hm] at hl
  | true =>
    obtain ⟨s', d', -, e⟩ := @handshakePkgs_ok env ⟨s, []⟩ _ rfl hcomp ht
    rw [hg.2.1] at d' e
    rw [launch_eq e]
    by_cases h0 : 0 ∈ slice (delivered s.inp) 2 n
    · refine iff_of_true (fun pre post h => (final_accepted ?_ h).elim) ⟨hn, .inl h0⟩
      simp [h0]
    · rw [final_refused d' (by simp [h0])]
      simp [hn, h0]

/-- A greeting with method 0 and a CONNECT behind it. -/
theorem negotiation_iff_method_zero :
    Greeting (delivered plainClient.inp) 1 ∧
      Negotiates (answering 7 true) ⟨"proxy", 3333, 5⟩ (fun _ => 0) 1 plainClient 1 := by
  have hg : Greeting (delivered plainClient.inp) 1 := ⟨by decide, by decide, by decide⟩
  exact ⟨hg, (negotiation_iff _ _ _ _ _ _ hg).2 ⟨by decide, .inl (by decide)⟩⟩

/-- Only username and password are offered; the CONNECT behind the refusal is parsed all the same. -/
theorem refused_greeting_goes_on :
    ¬∀ (env : Env Outcome) (c : Front) (junk : Nat → UInt8) (fuel : Nat) (s : Sock) (n : Nat),
      Greeting (delivered s.inp) n → Negotiates env c junk fuel s n := by
  intro h
  obtain ⟨s, hs⟩ : ∃ s : Sock, s = ⟨[.data [5, 1, 2, 5, 1, 0, 1, 1, 2, 3, 4, 0, 80]], [.wrote 2, .wrote 10], []⟩ :=
    ⟨_, rfl⟩
  have hd : delivered s.inp = [5, 1, 2, 5, 1, 0, 1, 1, 2, 3, 4, 0, 80] := by rw [hs]; decide
  have hn := h (answering 7 true) ⟨"proxy", 3333, 5⟩ (fun _ => 0) 1 s 1 (by rw [hd]; exact ⟨rfl, rfl, by decide⟩)
  obtain ⟨s', d', -, e⟩ := @handshakePkgs_ok (answering 7 true) ⟨s, []⟩ _ hd (by decide) (by rw [hs]; decide)
  obtain ⟨u, hu⟩ := @afterHandshake_parsed (answering 7 true) ⟨"proxy", 3333, 5⟩ (fun _ => 0) 1 ⟨s', _⟩
    [5, 1, 0, 1, 1, 2, 3, 4, 0, 80] 10 d' ⟨rfl, by decide, rfl⟩
  have hfinal := hn.final [] _ (by rw [launch_eq e, hu]; rfl)
  exact hfinal.2 _ (List.mem_cons_self) trivial

end

end SnakeSocks.Native
