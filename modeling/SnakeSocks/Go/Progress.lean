import SnakeSocks.Go.Accounting

/-!
# Sessions that cannot wedge

Once both peers have closed, no `Read` blocks. The tokens then drive the four counted goroutines to their ends one
after the other, with one exception: `dealc2s` waits on a full `chans2r` whose reader `deals2r` ended on a failed
`Write`. `NoStrandedPush` are the runs in which that does not come about.
-/

namespace SnakeSocks.Go

/-- `dealc2s` has a packet that it has not put on `chans2r` yet. -/
@[grind =] def C2sPc.holding : C2sPc → Bool
  | .decode _ | .feed _ => true
  | .idle | .read | .exit | .wgDone | .done => false

@[grind →] theorem C2sPc.not_holding {p : C2sPc} (h : p.signalled = true) : p.holding = false := by
  cases p <;> simp_all [C2sPc.signalled, C2sPc.holding]

/-- `dealc2s` reads no further packet when `deals2r` has ended with a chunk left in `chans2r`, and no `Write` to the
destination fails when a chunk is in `chans2r` and `dealc2s` holds another. -/
def NoStrandedPush (s : State) : Act → Prop
  | .c2sRead _ => ¬(s.s2r.ended = true ∧ s.chans2r ≠ none)
  | .s2rWriteErr .. => ¬(s.chans2r ≠ none ∧ s.c2s.holding = true)
  | _ => True

instance (s : State) (a : Act) : Decidable (NoStrandedPush s a) := by
  apply Act.casesOn (motive := fun a => Decidable (NoStrandedPush s a)) a <;> intros <;> dsimp only [NoStrandedPush] <;> infer_instance

/-- Nobody is left with a packet for a reader that is gone. -/
def State.PushServed (s : State) : Prop := s.s2r.ended = true → s.chans2r ≠ none → s.c2s.holding = false

section
variable {M : Codec} {s : State} {a : Act}

theorem pushServed_step (hl : Launched s) (h1 : S2rToken s) (h : s.PushServed) (hg : Guard s a)
    (hp : NoStrandedPush s a) : (Step M s a).PushServed := by
  cases a
  -- the two steps that could strand a packet
  case c2sRead => exact fun he hn => absurd ⟨he, hn⟩ hp
  case s2rWriteErr => exact fun _ hn => eq_false_of_ne_true fun hq => hp ⟨hn, hq⟩
  -- `deals2r` ends otherwise only by a token, which the producer has sent behind its last packet
  case s2rEnd0 | s2rEnd =>
    intro _ _
    rcases h1.sent hg.2 with hq | ⟨hq, -⟩
    · show s.c2s.holding = false
      cases hs : s.c2s <;> simp_all [C2sPc.signalled, C2sPc.holding]
    · show s.c2s.holding = false
      rw [hq]
      rfl
  case firstPush d =>
    intro _ _
    have hq : s.proxy = .feed (.push d) := hg.1
    show s.c2s.holding = false
    rw [hl.c2s_eq_idle (by rw [hq]; rfl) (by simp [hq])]
    rfl
  all_goals
    -- the others give `dealc2s` no packet that it did not hold
    unfold State.PushServed at *
    simp only [Guard, Step] at hg ⊢
    first | with_reducible exact h | grind -ring -linarith

theorem pushServed_of_reach (hr : (session M).Reach NoStrandedPush s) : s.PushServed := by
  refine hr.induct (I := State.PushServed) ?_ ?_
  · intro h
    simp [session, State.init, S2rPc.ended] at h
  · intro s a hr h he hp
    have hc := control_of_reach hr
    exact pushServed_step hc.launched hc.s2rToken h he.2 hp

/-! ## Where a session without a step can be -/

/-- Neither `proxy` nor one of the goroutines has a step. -/
def State.Stuck (s : State) : Prop := ∀ a : Act, a.isPeer = false → ¬Guard s a

/-- When the client is gone a `ReadB` returns. -/
theorem cliRead_ready (hcl : s.cliClosed = true) : s.cliReadFails ∨ ∃ pkt, s.cliIn.head? = some (some pkt) := by
  unfold State.cliReadFails
  cases h : s.cliIn with
  | nil => exact .inl (.inl ⟨rfl, hcl⟩)
  | cons p ps =>
    cases p with
    | none => exact .inl (.inr rfl)
    | some pkt => exact .inr ⟨pkt, rfl⟩

/-- A `chanStart` send always finds `deals2r` or `dealr2s` waiting. -/
theorem start_ready (h : Starting s) {again : Bool} (hs : s.startingIs again) : s.s2r = .select0 ∨ s.r2s = .select0 := by
  cases again with
  | true => exact .inl (h.both hs).1
  | false =>
    rcases h.one hs with ⟨h, -⟩ | ⟨-, h⟩
    · exact .inl h
    · exact .inr h

theorem proxy_of_stuck (hc : Control s) (hcl : s.cliClosed = true) (hst : s.Stuck) :
    s.proxy = .wait ∨ s.proxy = .done := by
  cases hp : s.proxy with
  | goS2r => exact (hst .goDeals2r rfl hp).elim
  | goR2s => exact (hst .goDealr2s rfl hp).elim
  | goS2c => exact (hst .goDeals2c rfl hp).elim
  | add3 => exact (hst .wgAdd3 rfl hp).elim
  | read =>
    rcases cliRead_ready hcl with h | ⟨pkt, h⟩
    · exact (hst .firstReadErr rfl ⟨hp, h⟩).elim
    · exact (hst (.firstRead pkt) rfl ⟨hp, h⟩).elim
  | decode pkt => exact (hst (.firstDecode pkt) rfl hp).elim
  | lookup domain => exact (hst (.lookup domain none) rfl hp).elim
  | dnsEncode q failed => exact (hst (.dnsEncode q failed) rfl hp).elim
  | dnsHeader body failed => exact (hst (.dnsHeader body failed) rfl hp).elim
  | dnsBody body failed => exact (hst (.dnsBody body failed) rfl hp).elim
  | feed f =>
    cases f with
    | dial q => exact (hst (.firstDial q) rfl hp).elim
    | start again d =>
      have hs : s.startingIs again := .inl (by rw [hp]; rfl)
      rcases start_ready hc.starting hs with h | h
      · exact (hst (.firstStartS2r again d) rfl ⟨hp, h⟩).elim
      · exact (hst (.firstStartR2s again d) rfl ⟨hp, h⟩).elim
    | push d => exact (hst (.firstPush d) rfl ⟨hp, hc.starting.first (by rw [hp]; rfl)⟩).elim
  | goC2s => exact (hst .goDealc2s rfl hp).elim
  | add1 => exact (hst .wgAdd1 rfl hp).elim
  | errEnd =>
    have := hc.s2rToken.le
    exact (hst .sendEnd rfl ⟨hp, by omega⟩).elim
  | wait => exact .inl rfl
  | close => exact (hst .connClose rfl hp).elim
  | done => exact .inr rfl

theorem c2s_of_stuck (hc : Control s) (hcl : s.cliClosed = true) (hst : s.Stuck) :
    s.c2s = .idle ∨ s.c2s = .done ∨ s.c2s.holding = true ∧ s.chans2r ≠ none := by
  cases hp : s.c2s with
  | idle => exact .inl rfl
  | read =>
    rcases cliRead_ready hcl with h | ⟨pkt, h⟩
    · exact (hst .c2sReadErr rfl ⟨hp, h⟩).elim
    · exact (hst (.c2sRead pkt) rfl ⟨hp, h⟩).elim
  | decode pkt => exact (hst (.c2sDecode pkt) rfl hp).elim
  | feed f =>
    cases f with
    | dial q => exact (hst (.c2sDial q) rfl hp).elim
    | start again d =>
      have hs : s.startingIs again := .inr (by rw [hp]; rfl)
      rcases start_ready hc.starting hs with h | h
      · exact (hst (.c2sStartS2r again d) rfl ⟨hp, h⟩).elim
      · exact (hst (.c2sStartR2s again d) rfl ⟨hp, h⟩).elim
    | push d => exact .inr (.inr ⟨rfl, fun h => hst (.c2sPush d) rfl ⟨hp, h⟩⟩)
  | exit =>
    have := hc.s2rToken.le
    exact (hst .c2sExit rfl ⟨hp, by omega⟩).elim
  | wgDone => exact (hst .c2sDone rfl hp).elim
  | done => exact .inr (.inl rfl)

/-- `deals2r` without a step has ended, or it waits with nothing sent to it. -/
theorem s2r_of_stuck (hc : Control s) (hst : s.Stuck) (hl : s.proxy.launched = 3) :
    s.s2r = .done ∨ s.s2r.ended = false ∧ s.chans2rEnd = 0 ∧ (s.chans2r ≠ none → s.s2r = .select0) := by
  cases hp : s.s2r with
  | idle =>
    have := hc.launched.s2r_idle.1 hp
    omega
  | select0 =>
    refine .inr ⟨rfl, ?_, fun _ => rfl⟩
    have := hst .s2rEnd0 rfl
    simp only [Guard, hp, true_and] at this
    omega
  | loop =>
    have h0 := hst .s2rEnd rfl
    simp only [Guard, hp, true_and] at h0
    refine .inr ⟨rfl, by omega, fun h => ?_⟩
    obtain ⟨d, hd⟩ := Option.ne_none_iff_exists'.1 h
    exact (hst (.s2rTake d) rfl ⟨hp, hd⟩).elim
  | write d => exact (hst (.s2rWrite d) rfl hp).elim
  | exit =>
    have := hc.r2sToken.le
    exact (hst .s2rExit rfl ⟨hp, by omega⟩).elim
  | wgDone => exact (hst .s2rDone rfl hp).elim
  | done => exact .inl rfl

theorem r2s_of_stuck (hc : Control s) (hst : s.Stuck) (hs : s.s2r = .done) (hl : s.proxy.launched = 3) :
    s.r2s = .done := by
  have htok : 0 < s.chanr2sEnd ∨ s.r2s.ended = true := hc.r2sToken.heard (by rw [hs]; rfl)
  cases hp : s.r2s with
  | idle =>
    have := hc.launched.r2s_idle.1 hp
    omega
  | select0 =>
    rcases htok with h | h
    · exact (hst .r2sEnd0 rfl ⟨hp, h⟩).elim
    · simp [hp, R2sPc.ended] at h
  | spawn => exact (hst .r2sSpawn rfl hp).elim
  | select1 =>
    rcases htok with h | h
    · exact (hst .r2sEnd rfl ⟨hp, h⟩).elim
    · simp [hp, R2sPc.ended] at h
  | exit =>
    have := hc.s2cToken.le
    simp only [hp, R2sPc.signalled, Bool.toNat_false] at this
    have hb := s.s2c.signalled.toNat_le
    exact (hst .r2sExit rfl ⟨hp, by omega⟩).elim
  | wgDone => exact (hst .r2sDone rfl hp).elim
  | done => rfl

theorem s2c_of_stuck (hc : Control s) (hst : s.Stuck) (hr : s.r2s = .done) (hl : s.proxy.launched = 3) :
    s.s2c = .done := by
  have htok : 0 < s.chans2cEnd ∨ s.s2c.ended = true := hc.s2cToken.heard (by rw [hr]; rfl)
  cases hp : s.s2c with
  | idle =>
    have := hc.launched.s2c_idle.1 hp
    omega
  | loop =>
    rcases htok with h | h
    · exact (hst .s2cEnd rfl ⟨hp, h⟩).elim
    · simp [hp, S2cPc.ended] at h
  | encode d => exact (hst (.s2cEncode d) rfl hp).elim
  | header body => exact (hst (.s2cHeader body) rfl hp).elim
  | body body => exact (hst (.s2cBody body) rfl hp).elim
  | exit =>
    have := hc.s2cToken.le
    simp only [hp, S2cPc.signalled, Bool.toNat_false] at this
    have hb := s.r2s.signalled.toNat_le
    exact (hst .s2cExit rfl ⟨hp, by omega⟩).elim
  | wgDone => exact (hst .s2cDone rfl hp).elim
  | done => rfl

/-! ## The result -/

/-- Every started counted goroutine has called `wg.Done`. -/
def State.StartedDone (s : State) : Prop :=
  (s.c2s = .idle ∨ s.c2s = .done) ∧ (s.s2r = .idle ∨ s.s2r = .done) ∧ (s.r2s = .idle ∨ s.r2s = .done) ∧
    (s.s2c = .idle ∨ s.s2c = .done)

theorem startedDone_of_allDone (h : s.AllDone) : s.StartedDone :=
  ⟨h.1, .inr h.2.1, .inr h.2.2.1, .inr h.2.2.2⟩

/-- The chain of tokens: with no step left, all four are through. -/
theorem allDone_of_stuck (hc : Control s) (hps : s.PushServed) (hcl : s.cliClosed = true) (hst : s.Stuck) :
    s.AllDone := by
  have hpr := proxy_of_stuck hc hcl hst
  have hret : s.proxy.returned = true := by rcases hpr with h | h <;> (rw [h]; rfl)
  have hl : s.proxy.launched = 3 := (ProxyPc.of_returned hret).1
  have hc2s : s.c2s = .idle ∨ s.c2s = .done := by
    rcases c2s_of_stuck hc hcl hst with h | h | ⟨hh, hfull⟩
    · exact .inl h
    · exact .inr h
    · exfalso
      rcases s2r_of_stuck hc hst hl with h | ⟨hne, -, hsel⟩
      · -- the reader of `chans2r` is gone
        have := hps (by rw [h]; rfl) hfull
        simp [hh] at this
      · -- the reader has not been started, so nothing can be in `chans2r`
        rcases hc.starting.s2r_waits (hsel hfull) with h | h
        · exact hfull (hc.notDialled h).chans2r
        · exact hfull (hc.starting.empty h)
  have hin : s.inputEnded := by
    rcases hc2s with h | h
    · exact .inr ⟨h, hret⟩
    · exact .inl (by rw [h]; rfl)
  have hs2r : s.s2r = .done := by
    rcases s2r_of_stuck hc hst hl with h | ⟨hne, h0, -⟩
    · exact h
    · rcases hc.s2rToken.heard hin with h | h
      · omega
      · simp [hne] at h
  have hr2s := r2s_of_stuck hc hst hs2r hl
  exact ⟨hc2s, hs2r, hr2s, s2c_of_stuck hc hst hr2s hl⟩

/-- In every state that a run of `NoStrandedPush` reaches and in which the client has closed, whether the destination
has closed too or not, every started counted goroutine has called `wg.Done` or the session has a step. -/
theorem session_not_wedged (hr : (session M).Reach NoStrandedPush s) (hcl : s.cliClosed = true) :
    s.StartedDone ∨ ∃ a : Act, a.isPeer = false ∧ (session M).enabled s a := by
  have hc := control_of_reach hr
  by_cases h0 : 0 ≤ s.wg
  · by_cases hst : s.Stuck
    · exact .inl (startedDone_of_allDone (allDone_of_stuck hc (pushServed_of_reach hr) hcl hst))
    · simp only [State.Stuck, not_forall, not_not] at hst
      obtain ⟨a, hp, hg⟩ := hst
      exact .inr ⟨a, hp, h0, hg⟩
  · -- the counter has panicked, which takes all four calls of `Done`
    obtain ⟨-, h4⟩ := (wg_cases hc (wgExact_of_reach hr)).1.1 (by omega)
    exact .inl (startedDone_of_allDone (allDone_iff.2 ⟨by omega, .inr h4⟩))

end

/-- Both peers close right after the first packet. -/
theorem session_not_wedged_quick_client : ∃ s, (session plainCodec).Reach NoStrandedPush s ∧ s.cliClosed = true ∧
    s.dstClosed = true ∧ (s.StartedDone ∨ ∃ a : Act, a.isPeer = false ∧ (session plainCodec).enabled s a) := by
  obtain ⟨s, hr, hc, hd⟩ : ∃ s, (session plainCodec).Reach NoStrandedPush s ∧ s.cliClosed = true ∧ s.dstClosed = true :=
    ⟨_, Lts.System.replay_reach (quickClient ++ [.wgAdd1, .dstClose]) .init rfl, rfl, rfl⟩
  exact ⟨s, hr, hc, hd, session_not_wedged hr hc⟩

/-- Three packets, and the first `Write` fails: `deals2r` ends, the second packet fills `chans2r`, and `dealc2s` waits
for ever with the third. -/
theorem wedged_after_write_error : ∃ s, (session plainCodec).Reachable s ∧ s.cliClosed = true ∧ s.dstClosed = true ∧
    (∃ d, s.c2s = .feed (.push d)) ∧ s.Stuck := by
  obtain ⟨s, hr, h⟩ : ∃ s, (session plainCodec).Reachable s ∧ s.cliClosed = true ∧ s.dstClosed = true ∧
      s.c2s = .feed (.push [9]) ∧ s.proxy = .wait ∧ s.wg = 1 ∧ s.chans2r = some [8] ∧ s.s2r = .done ∧ s.r2s = .done ∧
      s.s2c = .done ∧ s.reader = .done :=
    ⟨_, Lts.System.replay_reach
      [.goDeals2r, .goDealr2s, .goDeals2c, .wgAdd3, .cliSend (some [7]), .cliSend (some [8]), .cliSend (some [9]),
       .cliClose, .firstRead [7], .firstDecode [7], .firstDial ⟨Vector.replicate 16 0, 0, [7]⟩,
       .firstStartS2r true [7], .firstStartR2s false [7], .firstPush [7], .goDealc2s, .wgAdd1, .r2sSpawn, .dstReset,
       .s2rTake [7], .s2rWriteErr [7] 0, .s2rExit, .s2rDone, .readerReadErr, .readerSendErr, .r2sErr, .r2sExit,
       .r2sDone, .s2cEnd, .s2cExit, .s2cDone, .c2sRead [8], .c2sDecode [8], .c2sPush [8], .c2sRead [9],
       .c2sDecode [9]] .init rfl, by decide⟩
  obtain ⟨h1, h2, h3, h4, h5, h6, h7, h8, h9, h10⟩ := h
  refine ⟨s, hr, h1, h2, ⟨_, h3⟩, ?_⟩
  intro a hp hg
  cases a <;> simp_all [Guard, Act.isPeer]

end SnakeSocks.Go
