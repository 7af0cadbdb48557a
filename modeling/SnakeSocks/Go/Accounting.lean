import SnakeSocks.Go.Control

/-!
# The `WaitGroup` and the end of a session

`proxy` adds 3 after starting three goroutines and 1 after starting the fourth (`server.go:135-145`); each calls
`wg.Done` once. The counter is what was added less the calls of `Done`. Before `wg.Add(3)` nobody can have been
told to end, but `dealc2s` may end, and with it all four, before `wg.Add(1)` is reached.
-/

namespace SnakeSocks.Go

/-! ## The counter -/

/-- `wg.Add(3)` has run. -/
@[grind =] def ProxyPc.added3 : ProxyPc → Bool
  | .goS2r | .goR2s | .goS2c | .add3 => false
  | .read | .decode _ | .lookup _ | .dnsEncode .. | .dnsHeader .. | .dnsBody .. | .feed _ | .goC2s | .add1
  | .errEnd | .wait | .close | .done => true

/-- `wg.Add(1)` has run: `dealc2s` was started and `proxy` is past it. -/
def State.added1 (s : State) : Nat := if s.c2s = .idle ∨ s.proxy = .add1 then 0 else 1

/-- How many of the four have called `wg.Done`. -/
def State.doneCount (s : State) : Nat :=
  s.c2s.isDone.toNat + s.s2r.isDone.toNat + s.r2s.isDone.toNat + s.s2c.isDone.toNat

def State.WgExact (s : State) : Prop :=
  s.wg = 3 * (s.proxy.added3.toNat : Int) + s.added1 - s.doneCount

section
variable {M : Codec} {s : State} {a : Act}

theorem wgExact_step (hl : Launched s) (h : s.WgExact) (hg : Guard s a) : (Step M s a).WgExact := by
  -- the counter moves with `wgAdd3`, `wgAdd1` and the four `Done` steps, and so does the right-hand side
  cases a
  case wgAdd3 =>
    have hp : s.proxy = .add3 := hg
    have hi := hl.c2s_eq_idle (by rw [hp]; rfl) (by simp [hp])
    simp [State.WgExact, State.added1, State.doneCount, hp, hi, ProxyPc.added3, C2sPc.isDone] at h
    simp [State.WgExact, State.added1, State.doneCount, Step, hi, ProxyPc.added3, C2sPc.isDone]
    omega
  case wgAdd1 =>
    have hp : s.proxy = .add1 := hg
    have hi := hl.c2s_add1 hp
    simp [State.WgExact, State.added1, State.doneCount, hp, ProxyPc.added3] at h
    simp [State.WgExact, State.added1, State.doneCount, Step, hi, ProxyPc.added3]
    omega
  case c2sDone =>
    have hp : s.c2s = .wgDone := hg
    rw [State.WgExact, State.added1, State.doneCount, hp] at h
    rw [State.WgExact, State.added1, State.doneCount]
    simp only [Step, C2sPc.isDone, Bool.toNat_true, Bool.toNat_false, reduceCtorEq, false_or] at h ⊢
    omega
  case s2rDone =>
    have hp : s.s2r = .wgDone := hg
    have hadd : (Step M s .s2rDone).added1 = s.added1 := rfl
    rw [State.WgExact, State.doneCount, hp] at h
    rw [State.WgExact, State.doneCount, hadd]
    simp only [Step, S2rPc.isDone, Bool.toNat_true, Bool.toNat_false] at h ⊢
    omega
  case r2sDone =>
    have hp : s.r2s = .wgDone := hg
    have hadd : (Step M s .r2sDone).added1 = s.added1 := rfl
    rw [State.WgExact, State.doneCount, hp] at h
    rw [State.WgExact, State.doneCount, hadd]
    simp only [Step, R2sPc.isDone, Bool.toNat_true, Bool.toNat_false] at h ⊢
    omega
  case s2cDone =>
    have hp : s.s2c = .wgDone := hg
    have hadd : (Step M s .s2cDone).added1 = s.added1 := rfl
    rw [State.WgExact, State.doneCount, hp] at h
    rw [State.WgExact, State.doneCount, hadd]
    simp only [Step, S2cPc.isDone, Bool.toNat_true, Bool.toNat_false] at h ⊢
    omega
  all_goals
    -- the others move no counter that is counted here
    have l1 := hl.c2s_idle
    have l2 := hl.c2s_add1
    have l3 := hl.s2r_idle
    have l4 := hl.r2s_idle
    have l5 := hl.s2c_idle
    unfold State.WgExact State.added1 State.doneCount at h ⊢
    simp only [Guard, Step] at hg ⊢
    first | with_reducible exact h | grind -ring -linarith

theorem wgExact_of_reach {P : State → Act → Prop} (hr : (session M).Reach P s) : s.WgExact := by
  refine hr.induct (I := State.WgExact) ?_ ?_
  · show State.init.WgExact
    unfold State.WgExact
    decide
  · intro s a hr h he _
    exact wgExact_step (control_of_reach hr).launched h he.2

/-- Before `wg.Add(3)` nobody has called `Done`. -/
theorem doneCount_early (hc : Control s) (h : s.proxy.added3 = false) : s.doneCount = 0 := by
  have hb : s.proxy.beforeDial = true ∧ s.proxy.returned = false ∧ s.proxy ≠ .add1 := by
    cases hp : s.proxy <;> simp_all [ProxyPc.added3, ProxyPc.beforeDial, ProxyPc.returned]
  have hd : s.dst = none := hc.launched.early hb.1
  have hidle := hc.launched.c2s_eq_idle hb.2.1 hb.2.2
  have hin : ¬s.inputEnded := by
    simp [State.inputEnded, hidle, hb.2.1, C2sPc.signalled]
  obtain ⟨h1, h2, h3⟩ := (hc.toldToEnd hd).none_ended hin
  simp [State.doneCount, S2rPc.not_done h1, R2sPc.not_done h2, S2cPc.not_done h3, hidle, C2sPc.isDone]

end

/-! ## Never negative -/

def Act.isDone : Act → Bool
  | .c2sDone | .s2rDone | .r2sDone | .s2cDone => true
  | _ => false

/-- The last of the four calls of `Done` does not come while `proxy` is between `go dealc2s` and `wg.Add(1)`. -/
def AddBeforeLastDone (s : State) (a : Act) : Prop := s.proxy = .add1 → a.isDone = true → s.doneCount < 3

instance (s : State) (a : Act) : Decidable (AddBeforeLastDone s a) := inferInstanceAs (Decidable (_ → _ → _))

section
variable {M : Codec} {s : State} {a : Act}

theorem doneCount_add1_step (hg : Guard s a) (hp : AddBeforeLastDone s a) (h : s.proxy = .add1 → s.doneCount ≤ 3) :
    (Step M s a).proxy = .add1 → (Step M s a).doneCount ≤ 3 := by
  have b1 := s.s2r.isDone.toNat_le
  have b2 := s.r2s.isDone.toNat_le
  have b3 := s.s2c.isDone.toNat_le
  cases a
  -- `dealc2s` has not ended when it is started
  case goDealc2s =>
    intro _
    simp only [State.doneCount, Step, C2sPc.isDone, Bool.toNat_false]
    omega
  -- each of the four comes to fewer than three others
  case c2sDone =>
    intro ha
    have hlt := hp ha rfl
    rw [State.doneCount, show s.c2s = .wgDone from hg, C2sPc.isDone, Bool.toNat_false] at hlt
    simp only [State.doneCount, Step, C2sPc.isDone, Bool.toNat_true]
    omega
  case s2rDone =>
    intro ha
    have hlt := hp ha rfl
    rw [State.doneCount, show s.s2r = .wgDone from hg, S2rPc.isDone, Bool.toNat_false] at hlt
    simp only [State.doneCount, Step, S2rPc.isDone, Bool.toNat_true]
    omega
  case r2sDone =>
    intro ha
    have hlt := hp ha rfl
    rw [State.doneCount, show s.r2s = .wgDone from hg, R2sPc.isDone, Bool.toNat_false] at hlt
    simp only [State.doneCount, Step, R2sPc.isDone, Bool.toNat_true]
    omega
  case s2cDone =>
    intro ha
    have hlt := hp ha rfl
    rw [State.doneCount, show s.s2c = .wgDone from hg, S2cPc.isDone, Bool.toNat_false] at hlt
    simp only [State.doneCount, Step, S2cPc.isDone, Bool.toNat_true]
    omega
  all_goals
    -- the others do not change how many are done, or take `proxy` elsewhere
    unfold State.doneCount at h ⊢
    simp only [Guard, Step] at hg ⊢
    first | with_reducible exact h | grind -ring -linarith

theorem doneCount_le (s : State) : s.doneCount ≤ 4 := by
  have b0 := s.c2s.isDone.toNat_le
  have b1 := s.s2r.isDone.toNat_le
  have b2 := s.r2s.isDone.toNat_le
  have b3 := s.s2c.isDone.toNat_le
  unfold State.doneCount
  omega

/-- All but a never started `dealc2s` have called `Done`. -/
def State.AllDone (s : State) : Prop := (s.c2s = .idle ∨ s.c2s = .done) ∧ s.s2r = .done ∧ s.r2s = .done ∧ s.s2c = .done

theorem allDone_iff : s.AllDone ↔ 3 ≤ s.doneCount ∧ (s.c2s = .idle ∨ s.doneCount = 4) := by
  unfold State.AllDone State.doneCount
  rw [← C2sPc.isDone_iff, ← S2rPc.isDone_iff, ← R2sPc.isDone_iff, ← S2cPc.isDone_iff]
  by_cases hi : s.c2s = .idle
  · simp only [hi, C2sPc.isDone]
    cases s.s2r.isDone <;> cases s.r2s.isDone <;> cases s.s2c.isDone <;> simp
  · cases s.c2s.isDone <;> cases s.s2r.isDone <;> cases s.r2s.isDone <;> cases s.s2c.isDone <;> simp [hi]

/-- What the counter's value says about the four. -/
theorem wg_cases (hc : Control s) (hw : s.WgExact) :
    (s.wg < 0 ↔ s.proxy = .add1 ∧ s.doneCount = 4) ∧ (s.proxy.returned = true → s.wg = 0 → s.AllDone) := by
  have hle := doneCount_le s
  have he := doneCount_early hc
  have hl := hc.launched.c2s_idle
  have ha := hc.launched.c2s_add1
  have hidle : s.c2s = .idle → s.doneCount ≤ 3 := by
    intro h
    have b1 := s.s2r.isDone.toNat_le
    have b2 := s.r2s.isDone.toNat_le
    have b3 := s.s2c.isDone.toNat_le
    simp only [State.doneCount, h, C2sPc.isDone, Bool.toNat_false]
    omega
  rw [allDone_iff]
  have h3 : s.proxy.returned = true ∨ s.proxy = .add1 → s.proxy.added3 = true := by
    rintro (h | h)
    · cases hp : s.proxy <;> simp_all [ProxyPc.returned, ProxyPc.added3]
    · rw [h]
      rfl
  unfold State.WgExact State.added1 at hw
  by_cases hp : s.proxy = .add1
  · have hr : s.proxy.returned = false := by rw [hp]; rfl
    rw [if_pos (.inr hp), h3 (.inr hp)] at hw
    simp only [Bool.toNat_true] at hw
    refine ⟨⟨fun h => ⟨hp, by omega⟩, fun h => by omega⟩, fun h => ?_⟩
    simp [hr] at h
  · have hneg : ¬(s.proxy = .add1 ∧ s.doneCount = 4) := fun h => hp h.1
    by_cases hi : s.c2s = .idle
    · rw [if_pos (.inl hi)] at hw
      have hn := hidle hi
      cases ha : s.proxy.added3 with
      | false =>
        have h0 := he ha
        rw [ha, h0] at hw
        refine ⟨iff_of_false (by simp [hw]) hneg, fun hr => ?_⟩
        simp [h3 (.inl hr)] at ha
      | true =>
        rw [ha] at hw
        simp only [Bool.toNat_true] at hw
        exact ⟨iff_of_false (by omega) hneg, fun _ h0 => ⟨by omega, .inl hi⟩⟩
    · have hr : s.proxy.returned = true := (hl hi).resolve_left hp
      rw [if_neg (by simp [hi, hp]), h3 (.inl hr)] at hw
      simp only [Bool.toNat_true] at hw
      exact ⟨iff_of_false (by omega) hneg, fun _ h0 => ⟨by omega, .inr (by omega)⟩⟩

/-! ## The close -/

/-- Somebody is inside `call_server_encode` or `call_server_decode`. -/
def State.InCodec (s : State) : Prop :=
  (∃ pkt, s.proxy = .decode pkt) ∨ (∃ q failed, s.proxy = .dnsEncode q failed) ∨ (∃ pkt, s.c2s = .decode pkt) ∨
    ∃ d, s.s2c = .encode d

/-- `call_server_connection_close` is being called or has been. -/
def State.Closing (s : State) : Prop := s.proxy = .close ∨ s.proxy = .done

theorem not_inCodec_of_allDone (h : s.AllDone) (hc : s.Closing) : ¬s.InCodec := by
  obtain ⟨h1, -, -, h4⟩ := h
  rintro (⟨pkt, h⟩ | ⟨q, f, h⟩ | ⟨pkt, h⟩ | ⟨d, h⟩)
  · rcases hc with hc | hc <;> simp [hc] at h
  · rcases hc with hc | hc <;> simp [hc] at h
  · rcases h1 with h1 | h1 <;> simp [h1] at h
  · simp [h4] at h

/-- Once `wg.Wait` is past, all have ended and stay so. -/
theorem closing_step (hc : Control s) (hw : s.WgExact) (h : s.Closing → s.AllDone) (hg : Guard s a) :
    (Step M s a).Closing → (Step M s a).AllDone := by
  cases a
  -- `wg.Wait` is passed at zero, where all have called `Done`
  case wgWait =>
    intro _
    exact (wg_cases hc hw).2 (by rw [show s.proxy = .wait from hg.1]; rfl) hg.2
  case connClose =>
    intro _
    exact h (.inl hg)
  -- who has ended takes no step, and `proxy` is not back at an earlier statement
  all_goals
    unfold State.Closing State.AllDone at *
    simp only [Guard, Step] at hg ⊢
    first | with_reducible exact h | grind -ring -linarith

theorem closing_of_reach {P : State → Act → Prop} (hr : (session M).Reach P s) : s.Closing → s.AllDone := by
  refine hr.induct (I := fun s => s.Closing → s.AllDone) ?_ ?_
  · rintro (h | h) <;> simp [session, State.init] at h
  · intro s a hr h he _
    exact closing_step (control_of_reach hr) (wgExact_of_reach hr) h he.2

/-- In every run in which `wg.Add(1)` comes before the last `wg.Done`, the counter never goes below zero, and the
module's connection is closed only when no goroutine is in a module call or will make one. -/
theorem session_accounting (hr : (session M).Reach AddBeforeLastDone s) :
    0 ≤ s.wg ∧ (s.Closing → s.AllDone ∧ ¬s.InCodec) := by
  have hc := closing_of_reach hr
  refine ⟨?_, fun h => ⟨hc h, not_inCodec_of_allDone (hc h) h⟩⟩
  have h3 : s.proxy = .add1 → s.doneCount ≤ 3 := by
    refine hr.induct (I := fun s => s.proxy = .add1 → s.doneCount ≤ 3) ?_ ?_
    · intro h
      simp [session, State.init] at h
    · intro s a _ h he hp
      exact doneCount_add1_step he.2 hp h
  by_contra hneg
  obtain ⟨ha, h4⟩ := (wg_cases (control_of_reach hr) (wgExact_of_reach hr)).1.1 (by omega)
  have := h3 ha
  omega

end

/-- The module that passes payloads through. -/
def plainCodec : Codec := ⟨fun p => ⟨Vector.replicate 16 0, 0, p⟩, Query.payload⟩

/-- A session whose client sends one packet and closes at once, up to the start of `dealc2s`. -/
def quickClient : List Act :=
  [.goDeals2r, .goDealr2s, .goDeals2c, .wgAdd3, .cliSend (some [7]), .cliClose, .firstRead [7], .firstDecode [7],
   .firstDial ⟨Vector.replicate 16 0, 0, [7]⟩, .firstStartS2r true [7], .firstStartR2s false [7], .firstPush [7],
   .goDealc2s]

/-- The end of that session. -/
def quickEnd : List Act :=
  [.s2rTake [7], .s2rWrite [7], .r2sSpawn, .c2sReadErr, .c2sExit, .c2sDone, .s2rEnd, .s2rExit, .s2rDone, .r2sEnd,
   .r2sExit, .r2sDone, .s2cEnd, .s2cExit, .s2cDone]

theorem session_accounting_quick_client : ∃ s, (session plainCodec).Reach AddBeforeLastDone s ∧ s.proxy = .done ∧
    0 ≤ s.wg ∧ (s.Closing → s.AllDone ∧ ¬s.InCodec) := by
  obtain ⟨s, hr, hd⟩ : ∃ s, (session plainCodec).Reach AddBeforeLastDone s ∧ s.proxy = .done :=
    ⟨_, Lts.System.replay_reach (quickClient ++ .wgAdd1 :: quickEnd ++ [.wgWait, .connClose]) .init rfl, rfl⟩
  exact ⟨s, hr, hd, session_accounting hr⟩

/-- `dealc2s` and with it all four end before `proxy` gets to `wg.Add(1)`: the counter becomes -1. -/
theorem done_before_add_panics : ∃ s, (session plainCodec).Reachable s ∧ s.wg < 0 :=
  ⟨_, Lts.System.replay_reach (quickClient ++ quickEnd) .init rfl, by decide⟩

end SnakeSocks.Go
