import Mathlib.Tactic.MkIffOfInductiveProp
import SnakeSocks.Go.Session

/-!
# Who can be where: the control invariant of a session

The `End` tokens form a chain: the producer of `chans2r` (`checkFirst`, then `dealc2s`) tells `deals2r`, which tells
`dealr2s`, which tells `deals2c`. Before the destination is dialled the two goroutines behind `chanStart` wait for
it or for a token; both `chanStart` sends find a receiver.
-/

namespace SnakeSocks.Go

/-! ## Places -/

/-- How many of the three `go` statements before `wg.Add(3)` have run. -/
@[grind =] def ProxyPc.launched : ProxyPc → Nat
  | .goS2r => 0
  | .goR2s => 1
  | .goS2c => 2
  | .add3 | .read | .decode _ | .lookup _ | .dnsEncode .. | .dnsHeader .. | .dnsBody .. | .feed _ | .goC2s | .add1
  | .errEnd | .wait | .close | .done => 3

/-- The body of `proxy` has returned and its deferred calls run. -/
@[grind =] def ProxyPc.returned : ProxyPc → Bool
  | .wait | .close | .done => true
  | .goS2r | .goR2s | .goS2c | .add3 | .read | .decode _ | .lookup _ | .dnsEncode .. | .dnsHeader .. | .dnsBody ..
  | .feed _ | .goC2s | .add1 | .errEnd => false

/-- `proxy` has not dialled and may still do so. -/
@[grind =] def ProxyPc.beforeDial : ProxyPc → Bool
  | .goS2r | .goR2s | .goS2c | .add3 | .read | .decode _ | .lookup _ | .dnsEncode .. | .dnsHeader .. | .dnsBody ..
  | .feed (.dial _) | .errEnd => true
  | .feed (.start ..) | .feed (.push _) | .goC2s | .add1 | .wait | .close | .done => false

/-- `dealc2s` is about to dial. -/
@[grind =] def C2sPc.dialling : C2sPc → Bool
  | .feed (.dial _) => true
  | .feed (.start ..) | .feed (.push _) | .idle | .read | .decode _ | .exit | .wgDone | .done => false

/-- The token of `dealc2s` is sent. -/
@[grind =] def C2sPc.signalled : C2sPc → Bool
  | .wgDone | .done => true
  | .idle | .read | .decode _ | .feed _ | .exit => false

/-- `deals2r` is past its first `select` and has not ended. -/
@[grind =] def S2rPc.running : S2rPc → Bool
  | .loop | .write _ => true
  | .idle | .select0 | .exit | .wgDone | .done => false

@[grind =] def S2rPc.ended : S2rPc → Bool
  | .exit | .wgDone | .done => true
  | .idle | .select0 | .loop | .write _ => false

@[grind =] def S2rPc.signalled : S2rPc → Bool
  | .wgDone | .done => true
  | .idle | .select0 | .loop | .write _ | .exit => false

/-- `dealr2s` is past its first `select` and has not ended. -/
@[grind =] def R2sPc.running : R2sPc → Bool
  | .spawn | .select1 => true
  | .idle | .select0 | .exit | .wgDone | .done => false

/-- `dealr2s` has not started its reader. -/
@[grind =] def R2sPc.unspawned : R2sPc → Bool
  | .idle | .select0 | .spawn => true
  | .select1 | .exit | .wgDone | .done => false

@[grind =] def R2sPc.ended : R2sPc → Bool
  | .exit | .wgDone | .done => true
  | .idle | .select0 | .spawn | .select1 => false

@[grind =] def R2sPc.signalled : R2sPc → Bool
  | .wgDone | .done => true
  | .idle | .select0 | .spawn | .select1 | .exit => false

/-- `deals2c` holds a chunk. -/
@[grind =] def S2cPc.busy : S2cPc → Bool
  | .encode _ | .header _ | .body _ => true
  | .idle | .loop | .exit | .wgDone | .done => false

@[grind =] def S2cPc.ended : S2cPc → Bool
  | .exit | .wgDone | .done => true
  | .idle | .loop | .encode _ | .header _ | .body _ => false

@[grind =] def S2cPc.signalled : S2cPc → Bool
  | .wgDone | .done => true
  | .idle | .loop | .encode _ | .header _ | .body _ | .exit => false

/-- The destination is dialled and this payload is on its way. -/
@[grind =] def Feed.dialled : Feed → Bool
  | .start .. | .push _ => true
  | .dial _ => false

@[grind =] def ProxyPc.dialled : ProxyPc → Bool
  | .feed f => f.dialled
  | .goS2r | .goR2s | .goS2c | .add3 | .read | .decode _ | .lookup _ | .dnsEncode .. | .dnsHeader .. | .dnsBody ..
  | .goC2s | .add1 | .errEnd | .wait | .close | .done => false

@[grind =] def C2sPc.dialled : C2sPc → Bool
  | .feed f => f.dialled
  | .idle | .read | .decode _ | .exit | .wgDone | .done => false

/-- The `chanStart` send in progress. -/
@[grind =] def Feed.starting : Feed → Option Bool
  | .start again _ => some again
  | .dial _ | .push _ => none

@[grind =] def ProxyPc.starting : ProxyPc → Option Bool
  | .feed f => f.starting
  | .goS2r | .goR2s | .goS2c | .add3 | .read | .decode _ | .lookup _ | .dnsEncode .. | .dnsHeader .. | .dnsBody ..
  | .goC2s | .add1 | .errEnd | .wait | .close | .done => none

@[grind =] def C2sPc.starting : C2sPc → Option Bool
  | .feed f => f.starting
  | .idle | .read | .decode _ | .exit | .wgDone | .done => none

/-- `wg.Done` called. -/
@[grind =] def C2sPc.isDone : C2sPc → Bool
  | .done => true
  | .idle | .read | .decode _ | .feed _ | .exit | .wgDone => false

@[grind =] def S2rPc.isDone : S2rPc → Bool
  | .done => true
  | .idle | .select0 | .loop | .write _ | .exit | .wgDone => false

@[grind =] def R2sPc.isDone : R2sPc → Bool
  | .done => true
  | .idle | .select0 | .spawn | .select1 | .exit | .wgDone => false

@[grind =] def S2cPc.isDone : S2cPc → Bool
  | .done => true
  | .idle | .loop | .encode _ | .header _ | .body _ | .exit | .wgDone => false

attribute [grind =] Feed.next Feed.ofQuery ProxyPc.ofFirst

@[grind →] theorem ProxyPc.of_returned {p : ProxyPc} (h : p.returned = true) :
    p.launched = 3 ∧ p.beforeDial = false ∧ p.starting = none ∧ p.dialled = false := by
  cases p <;> simp_all [ProxyPc.returned, ProxyPc.launched, ProxyPc.beforeDial, ProxyPc.starting, ProxyPc.dialled]

theorem ProxyPc.of_starting {p : ProxyPc} {b : Bool} (h : p.starting = some b) : p.returned = false ∧ p ≠ .add1 := by
  cases p <;> simp_all [ProxyPc.returned, ProxyPc.starting]

theorem C2sPc.of_starting {p : C2sPc} {b : Bool} (h : p.starting = some b) : p.signalled = false ∧ p ≠ .idle := by
  cases p <;> simp_all [C2sPc.signalled, C2sPc.starting]

@[grind →] theorem S2rPc.ended_of_signalled {p : S2rPc} (h : p.signalled = true) : p.ended = true := by
  cases p <;> simp_all [S2rPc.signalled, S2rPc.ended]

@[grind →] theorem R2sPc.ended_of_signalled {p : R2sPc} (h : p.signalled = true) : p.ended = true := by
  cases p <;> simp_all [R2sPc.signalled, R2sPc.ended]

@[grind →] theorem S2cPc.ended_of_signalled {p : S2cPc} (h : p.signalled = true) : p.ended = true := by
  cases p <;> simp_all [S2cPc.signalled, S2cPc.ended]

/-- Nothing will be put on `chans2r` any more, and `deals2r` has been told. -/
@[grind =] def State.inputEnded (s : State) : Prop :=
  s.c2s.signalled = true ∨ s.c2s = .idle ∧ s.proxy.returned = true

@[grind =] def State.startingIs (s : State) (again : Bool) : Prop :=
  s.proxy.starting = some again ∨ s.c2s.starting = some again

/-- A place that is excluded. -/
theorem absurd_place {α : Type} {f : α → Bool} {p q : α} (h : f p = false) (hp : p = q) (hq : f q = true) : False := by
  rw [hp, hq] at h
  cases h

theorem C2sPc.isDone_iff {p : C2sPc} : p.isDone = true ↔ p = .done := by
  cases p <;> simp [C2sPc.isDone]

theorem S2rPc.isDone_iff {p : S2rPc} : p.isDone = true ↔ p = .done := by
  cases p <;> simp [S2rPc.isDone]

theorem R2sPc.isDone_iff {p : R2sPc} : p.isDone = true ↔ p = .done := by
  cases p <;> simp [R2sPc.isDone]

theorem S2cPc.isDone_iff {p : S2cPc} : p.isDone = true ↔ p = .done := by
  cases p <;> simp [S2cPc.isDone]

theorem S2rPc.not_done {p : S2rPc} (h : p.ended = false) : p.isDone = false := by
  cases p <;> simp_all [S2rPc.isDone, S2rPc.ended]

theorem R2sPc.not_done {p : R2sPc} (h : p.ended = false) : p.isDone = false := by
  cases p <;> simp_all [R2sPc.isDone, R2sPc.ended]

theorem S2cPc.not_done {p : S2cPc} (h : p.ended = false) : p.isDone = false := by
  cases p <;> simp_all [S2cPc.isDone, S2cPc.ended]

/-! ## The tokens -/

/-- Which goroutines have been started, by where `proxy` is. -/
@[mk_iff]
structure Launched (s : State) : Prop where
  c2s_idle : s.c2s ≠ .idle → s.proxy = .add1 ∨ s.proxy.returned = true
  c2s_add1 : s.proxy = .add1 → s.c2s ≠ .idle
  s2r_idle : s.s2r = .idle ↔ s.proxy.launched = 0
  r2s_idle : s.r2s = .idle ↔ s.proxy.launched ≤ 1
  s2c_idle : s.s2c = .idle ↔ s.proxy.launched ≤ 2
  early : s.proxy.beforeDial = true → s.dst = none
  late : s.c2s.dialling = true → s.dst = none
  aborted : s.c2s = .idle → s.proxy.returned = true → s.dst = none

/-- The token from the producer of `chans2r` to `deals2r`. -/
@[mk_iff]
structure S2rToken (s : State) : Prop where
  le : s.chans2rEnd ≤ 1
  sent : 0 < s.chans2rEnd → s.inputEnded
  heard : s.inputEnded → 0 < s.chans2rEnd ∨ s.s2r.ended = true

/-- The token from `deals2r` to `dealr2s`. -/
@[mk_iff]
structure R2sToken (s : State) : Prop where
  le : s.chanr2sEnd ≤ 1
  sent : 0 < s.chanr2sEnd → s.s2r.signalled = true
  heard : s.s2r.signalled = true → 0 < s.chanr2sEnd ∨ s.r2s.ended = true

/-- The tokens `dealr2s` and, at its own end, `deals2c` put on `chans2cEnd`. -/
@[mk_iff]
structure S2cToken (s : State) : Prop where
  le : s.chans2cEnd ≤ s.r2s.signalled.toNat + s.s2c.signalled.toNat
  heard : s.r2s.signalled = true → 0 < s.chans2cEnd ∨ s.s2c.ended = true

section
variable {M : Codec} {s : State} {a : Act}

/-- Until `proxy` is past its last `go` statement there is no `dealc2s`. -/
theorem Launched.c2s_eq_idle (h : Launched s) (hr : s.proxy.returned = false) (ha : s.proxy ≠ .add1) : s.c2s = .idle := by
  by_contra hne
  rcases h.c2s_idle hne with h' | h'
  · exact ha h'
  · rw [hr] at h'
    cases h'

/-- Between the `go` statements there is neither a `dealc2s` nor a destination. -/
theorem Launched.before_go (h : Launched s) (hp : s.proxy.launched < 3) : s.c2s = .idle ∧ s.dst = none := by
  have hb : s.proxy.returned = false ∧ s.proxy ≠ .add1 ∧ s.proxy.beforeDial = true := by
    cases hq : s.proxy <;> simp_all [ProxyPc.launched, ProxyPc.returned, ProxyPc.beforeDial]
  exact ⟨h.c2s_eq_idle hb.1 hb.2.1, h.early hb.2.2⟩

theorem launched_step (h : Launched s) (hg : Guard s a) : Launched (Step M s a) := by
  have hstarted := fun hp => h.before_go hp
  rw [launched_iff] at h ⊢
  cases a
  -- a goroutine leaves `idle` in the step that moves `proxy` over its `go` statement
  case goDeals2r | goDealr2s | goDeals2c =>
    obtain ⟨hi, hd⟩ := hstarted (by rw [show s.proxy = _ from hg]; decide)
    simp_all [Guard, Step, ProxyPc.launched, ProxyPc.returned, ProxyPc.beforeDial, C2sPc.dialling]
  case goDealc2s =>
    have hp : s.proxy = .goC2s := hg
    simp_all [Step, ProxyPc.launched, ProxyPc.returned, ProxyPc.beforeDial, C2sPc.dialling]
  -- only one of the two producers dials, and it is past its dial then
  case firstDial q =>
    have hp : s.proxy = .feed (.dial q) := hg
    simp_all [Step, ProxyPc.launched, ProxyPc.returned, ProxyPc.beforeDial, C2sPc.dialling]
  case c2sDial q =>
    have hp : s.c2s = .feed (.dial q) := hg
    have hpast : s.proxy.beforeDial = false := by
      rcases h.1 (by simp [hp]) with hq | hq
      · rw [hq]
        rfl
      · exact (ProxyPc.of_returned hq).2.1
    simp_all [Step, C2sPc.dialling]
  all_goals
    -- the others start nobody and dial nothing
    simp only [Guard, Step] at hg ⊢
    first | with_reducible exact h | grind -ring -linarith

theorem s2rToken_step (hl : Launched s) (h : S2rToken s) (hg : Guard s a) : S2rToken (Step M s a) := by
  obtain ⟨hc, hc', hs, -, -, -, -, -⟩ := hl
  rw [s2rToken_iff] at h ⊢
  simp only [State.inputEnded] at h ⊢
  cases a
  -- sent by `c2sExit` or `sendEnd`, of which `Launched` allows one
  case c2sExit =>
    have hp : s.c2s = .exit := hg.1
    have hnone : s.chans2rEnd = 0 := by
      by_contra h0
      rcases h.2.1 (by omega) with hq | ⟨hq, -⟩
      · simp [hp, C2sPc.signalled] at hq
      · simp [hp] at hq
    simp [Step, hnone, C2sPc.signalled]
  case sendEnd =>
    have hp : s.proxy = .errEnd := hg.1
    have hi : s.c2s = .idle := by
      by_contra hne
      rcases hc hne with hq | hq <;> simp [hp, ProxyPc.returned] at hq
    have hnone : s.chans2rEnd = 0 := by
      by_contra h0
      rcases h.2.1 (by omega) with hq | ⟨-, hq⟩
      · simp [hi, C2sPc.signalled] at hq
      · simp [hp, ProxyPc.returned] at hq
    simp [Step, hnone, hi, ProxyPc.returned]
  -- taken by `s2rEnd0` or `s2rEnd`, which end `deals2r`
  case s2rEnd0 | s2rEnd =>
    have hsent := h.2.1 hg.2
    have hle := h.1
    refine ⟨?_, fun _ => hsent, fun _ => .inr rfl⟩
    simp only [Step]
    omega
  all_goals
    -- the others leave the token and who has sent it
    simp only [Guard, Step] at hg ⊢
    first | with_reducible exact h | grind -ring -linarith

theorem r2sToken_step (hl : Launched s) (h : R2sToken s) (hg : Guard s a) : R2sToken (Step M s a) := by
  obtain ⟨-, -, hs, hr, -, -, -, -⟩ := hl
  rw [r2sToken_iff] at h ⊢
  cases a
  -- sent by `s2rExit`
  case s2rExit =>
    have hp : s.s2r = .exit := hg.1
    have hnone : s.chanr2sEnd = 0 := by
      by_contra h0
      have hq := h.2.1 (by omega)
      simp [hp, S2rPc.signalled] at hq
    simp [Step, hnone, S2rPc.signalled]
  -- taken by `r2sEnd0` or `r2sEnd`, which end `dealr2s`
  case r2sEnd0 | r2sEnd =>
    have hsent := h.2.1 hg.2
    have hle := h.1
    refine ⟨?_, fun _ => hsent, fun _ => .inr rfl⟩
    simp only [Step]
    omega
  all_goals
    -- `deals2r` and `dealr2s` move between places on the same side of the token
    simp only [Guard, Step] at hg ⊢
    first | with_reducible exact h | grind -ring -linarith

theorem s2cToken_step (hl : Launched s) (h : S2cToken s) (hg : Guard s a) : S2cToken (Step M s a) := by
  obtain ⟨-, -, -, hr, hc, -, -, -⟩ := hl
  rw [s2cToken_iff] at h ⊢
  cases a
  -- sent by `r2sExit` and `s2cExit`
  case r2sExit =>
    have hp : s.r2s = .exit := hg.1
    have hle := h.1
    simp only [hp, R2sPc.signalled, Bool.toNat_false] at hle
    refine ⟨?_, fun _ => .inl (Nat.succ_pos _)⟩
    simp only [Step, R2sPc.signalled, Bool.toNat_true]
    omega
  case s2cExit =>
    have hp : s.s2c = .exit := hg.1
    have hle := h.1
    simp only [hp, S2cPc.signalled, Bool.toNat_false] at hle
    refine ⟨?_, fun _ => .inr rfl⟩
    simp only [Step, S2cPc.signalled, Bool.toNat_true]
    omega
  -- taken by `s2cEnd` only, so the second one stays in the channel
  case s2cEnd =>
    have hp : s.s2c = .loop := hg.1
    have hle := h.1
    simp only [hp, S2cPc.signalled, Bool.toNat_false] at hle
    refine ⟨?_, fun _ => .inr rfl⟩
    simp only [Step, S2cPc.signalled, Bool.toNat_false]
    omega
  all_goals
    -- likewise `dealr2s` and `deals2c`
    simp only [Guard, Step] at hg ⊢
    first | with_reducible exact h | grind -ring -linarith

/-- While `deals2c` is in its loop the token is that of `dealr2s`. -/
theorem S2cToken.sent (h : S2cToken s) (hs : s.s2c = .loop) (h0 : 0 < s.chans2cEnd) : s.r2s.signalled = true := by
  have hle := h.le
  rw [hs] at hle
  cases hr : s.r2s.signalled with
  | true => rfl
  | false =>
    rw [hr] at hle
    simp only [S2cPc.signalled, Bool.toNat_false] at hle
    omega

end

/-! ## Before and after `dial` -/

/-- While nothing is dialled no data is anywhere behind `chanStart`. -/
@[mk_iff]
structure NotDialled (s : State) : Prop where
  s2r : s.s2r.running = false
  r2s : s.r2s.running = false
  reader : s.reader = .idle
  s2c : s.s2c.busy = false
  chans2r : s.chans2r = none
  chans2c : s.chans2c = none
  eCh : s.eCh = false
  proxy : s.proxy.dialled = false
  c2s : s.c2s.dialled = false
  chunks : s.chunks = []

/-- While nothing is dialled whoever has ended was told to. -/
@[mk_iff]
structure ToldToEnd (s : State) : Prop where
  s2r : s.s2r.ended = true → s.inputEnded
  r2s : s.r2s.ended = true → s.s2r.signalled = true
  s2c : s.s2c.ended = true → s.r2s.signalled = true

/-- The two `chanStart` sends: who waits for them, and that nobody waits in vain. -/
@[mk_iff]
structure Starting (s : State) : Prop where
  both : s.startingIs true → s.s2r = .select0 ∧ s.r2s = .select0
  one : s.startingIs false → s.s2r = .select0 ∧ s.r2s ≠ .select0 ∨ s.s2r = .loop ∧ s.r2s = .select0
  s2r_waits : s.s2r = .select0 → s.dst = none ∨ s.startingIs true ∨ s.startingIs false
  r2s_waits : s.r2s = .select0 → s.dst = none ∨ s.startingIs true ∨ s.startingIs false
  empty : s.startingIs true ∨ s.startingIs false → s.chans2r = none
  first : s.proxy.dialled = true → s.chans2r = none

/-- The reader of `dealr2s`: its error is the last thing it sends. -/
@[mk_iff]
structure ReaderLife (s : State) : Prop where
  idle : s.r2s.unspawned = true → s.reader = .idle
  eCh : s.eCh = true → s.reader = .done

section
variable {M : Codec} {s : State} {a : Act}

theorem readerLife_step (hl : Launched s) (h : ReaderLife s) (hg : Guard s a) : ReaderLife (Step M s a) := by
  have hr := hl.r2s_idle
  rw [readerLife_iff] at h ⊢
  cases a
  -- the reader starts where nothing has been sent yet
  case r2sSpawn =>
    have hp : s.r2s = .spawn := hg
    have hidle : s.reader = .idle := h.1 (by rw [hp]; rfl)
    have hquiet : s.eCh = true → False := fun he => by simp [h.2 he] at hidle
    exact ⟨fun hu => by simp [Step, R2sPc.unspawned] at hu, fun he => (hquiet he).elim⟩
  -- a reader that works is started and has not sent its error
  case readerRead | readerReadErr | readerPush =>
    refine ⟨fun hu => ?_, fun he => ?_⟩
    · have hq := h.1 hu
      rw [hg.1] at hq
      cases hq
    · have hq := h.2 he
      rw [hg.1] at hq
      cases hq
  case readerSendErr =>
    refine ⟨fun hu => ?_, fun _ => rfl⟩
    have hq := h.1 hu
    rw [hg.1] at hq
    cases hq
  all_goals
    -- the others do not touch the reader
    simp only [Guard, Step] at hg ⊢
    first | with_reducible exact h | grind -ring -linarith

theorem notDialled_step (h : s.dst = none → NotDialled s) (hg : Guard s a) :
    (Step M s a).dst = none → NotDialled (Step M s a) := by
  cases a
  case firstDial | c2sDial =>
    intro hd
    cases hd
  -- who is behind the dial is not there without it
  case firstStartS2r | firstStartR2s | firstPush => exact fun hd => (absurd_place (h hd).proxy hg.1 rfl).elim
  case c2sStartS2r | c2sStartR2s | c2sPush => exact fun hd => (absurd_place (h hd).c2s hg.1 rfl).elim
  case s2rTake => exact fun hd => (absurd_place (h hd).s2r hg.1 rfl).elim
  case s2rWrite | s2rWriteErr => exact fun hd => (absurd_place (h hd).s2r hg rfl).elim
  case r2sSpawn => exact fun hd => (absurd_place (h hd).r2s hg rfl).elim
  case readerRead | readerReadErr | readerPush | readerSendErr =>
    intro hd
    have hq := (h hd).reader
    rw [hg.1] at hq
    cases hq
  case s2cTake =>
    intro hd
    have hq := (h hd).chans2c
    rw [hg.2] at hq
    cases hq
  all_goals
    -- the others put nothing behind the dial
    simp only [notDialled_iff] at h ⊢
    simp only [Guard, Step] at hg ⊢
    first | with_reducible exact h | grind -ring -linarith

theorem toldToEnd_step (hl : Launched s) (h1 : S2rToken s) (h2 : R2sToken s) (h3 : S2cToken s)
    (hd : s.dst = none → NotDialled s) (h : s.dst = none → ToldToEnd s) (hg : Guard s a) :
    (Step M s a).dst = none → ToldToEnd (Step M s a) := by
  cases a
  -- without a destination no `Write` can fail and no reader can report
  case s2rWriteErr => exact fun hn => (absurd_place (hd hn).s2r hg rfl).elim
  case r2sErr =>
    intro hn
    have hq := (hd hn).eCh
    rw [hg.2] at hq
    cases hq
  case s2cHeaderErr | s2cBodyErr => exact fun hn => (absurd_place (hd hn).s2c hg rfl).elim
  -- so only a token ends anybody
  case s2rEnd0 | s2rEnd =>
    intro hn
    refine ⟨fun _ => h1.sent hg.2, fun hr => ?_, (h hn).s2c⟩
    have hq := (h hn).r2s hr
    rw [hg.1] at hq
    cases hq
  case r2sEnd0 | r2sEnd =>
    intro hn
    refine ⟨(h hn).s2r, fun _ => h2.sent hg.2, fun hc => ?_⟩
    have hq := (h hn).s2c hc
    rw [hg.1] at hq
    cases hq
  case s2cEnd =>
    intro hn
    exact ⟨(h hn).s2r, (h hn).r2s, fun _ => h3.sent hg.1 hg.2⟩
  all_goals
    -- the others end nobody
    have l1 := hl.c2s_idle
    have l2 := hl.c2s_add1
    have l3 := hl.s2r_idle
    have l4 := hl.r2s_idle
    have l5 := hl.s2c_idle
    simp only [toldToEnd_iff, State.inputEnded] at h ⊢
    simp only [Guard, Step] at hg ⊢
    first | with_reducible exact h | grind -ring -linarith

/-- Before the token of the producer nobody has ended. -/
theorem ToldToEnd.none_ended (he : ToldToEnd s) (hi : ¬s.inputEnded) :
    s.s2r.ended = false ∧ s.r2s.ended = false ∧ s.s2c.ended = false := by
  have h1 : ¬s.s2r.ended = true := fun h => hi (he.s2r h)
  have h2 : ¬s.r2s.ended = true := fun h => h1 (S2rPc.ended_of_signalled (he.r2s h))
  have h3 : ¬s.s2c.ended = true := fun h => h2 (R2sPc.ended_of_signalled (he.s2c h))
  exact ⟨eq_false_of_ne_true h1, eq_false_of_ne_true h2, eq_false_of_ne_true h3⟩

/-- At a dial both goroutines behind `chanStart` are in their first `select`. -/
theorem both_wait (hl : Launched s) (hd : NotDialled s) (he : ToldToEnd s) (h3 : s.proxy.launched = 3)
    (hi : ¬s.inputEnded) : s.s2r = .select0 ∧ s.r2s = .select0 := by
  obtain ⟨hs, hr, -⟩ := he.none_ended hi
  have h0 : s.s2r ≠ .idle := by simp [hl.s2r_idle, h3]
  have h1 : s.r2s ≠ .idle := by simp [hl.r2s_idle, h3]
  have d0 := hd.s2r
  have d1 := hd.r2s
  constructor
  · cases h : s.s2r <;> simp_all [S2rPc.running, S2rPc.ended]
  · cases h : s.r2s <;> simp_all [R2sPc.running, R2sPc.ended]

/-- Who is sending on `chanStart` has not sent its token. -/
theorem no_token_of_starting (hl : Launched s) (h1 : S2rToken s) {b : Bool} (h : s.startingIs b) : s.chans2rEnd = 0 := by
  by_contra h0
  rcases h with hp | hc
  · obtain ⟨hr, ha⟩ := ProxyPc.of_starting hp
    rcases h1.sent (by omega) with hs | ⟨-, hr'⟩
    · simp [hl.c2s_eq_idle hr ha, C2sPc.signalled] at hs
    · simp [hr] at hr'
  · obtain ⟨hs, hi⟩ := C2sPc.of_starting hc
    rcases h1.sent (by omega) with h | ⟨h, -⟩
    · simp [hs] at h
    · exact hi h

theorem starting_step (hl : Launched s) (h1 : S2rToken s) (h2 : R2sToken s)
    (hd : s.dst = none → NotDialled s) (he : s.dst = none → ToldToEnd s) (h : Starting s) (hg : Guard s a) :
    Starting (Step M s a) := by
  have hb : s.dst = none → s.proxy.launched = 3 → ¬s.inputEnded → s.s2r = .select0 ∧ s.r2s = .select0 :=
    fun h0 => both_wait hl (hd h0) (he h0)
  have t0 : ∀ b, s.startingIs b → s.chans2rEnd = 0 := fun b => no_token_of_starting hl h1
  have t1 := t0 true
  have t2 := t0 false
  have t3 := h2.sent
  clear t0
  have l1 := hl.c2s_idle
  have l2 := hl.early
  have l3 := hl.late
  have d1 := fun h0 => (hd h0).chans2r
  simp only [starting_iff, State.startingIs, State.inputEnded] at h hb t1 ⊢
  cases a
  -- at a dial both goroutines wait; the first send of `chanStart` takes one of them, the second the other
  case firstDial q =>
    have hp : s.proxy = .feed (.dial q) := hg
    have hd : s.dst = none := l2 (by rw [hp]; rfl)
    simp only [Step]
    grind -ring -linarith
  case c2sDial q =>
    have hp : s.c2s = .feed (.dial q) := hg
    have hd : s.dst = none := l3 (by rw [hp]; rfl)
    simp only [Step]
    grind -ring -linarith
  case firstStartS2r again d | firstStartR2s again d =>
    have hp : s.proxy = .feed (.start again d) := hg.1
    cases again <;> simp only [Step, Guard] at hg ⊢ <;> grind -ring -linarith
  case c2sStartS2r again d | c2sStartR2s again d =>
    have hp : s.c2s = .feed (.start again d) := hg.1
    cases again <;> simp only [Step, Guard] at hg ⊢ <;> grind -ring -linarith
  all_goals
    -- the others do not send on `chanStart`, and who waits for it goes on only by a token
    simp only [Guard, Step] at hg ⊢
    first | with_reducible exact h | grind -ring -linarith

end

/-! ## All of it -/

structure Control (s : State) : Prop where
  launched : Launched s
  s2rToken : S2rToken s
  r2sToken : R2sToken s
  s2cToken : S2cToken s
  notDialled : s.dst = none → NotDialled s
  toldToEnd : s.dst = none → ToldToEnd s
  starting : Starting s
  readerLife : ReaderLife s

theorem control_init : Control .init where
  launched := by simp [launched_iff, State.init, ProxyPc.launched, C2sPc.dialling, ProxyPc.returned]
  s2rToken := by simp [s2rToken_iff, State.init, State.inputEnded, C2sPc.signalled, ProxyPc.returned]
  r2sToken := by simp [r2sToken_iff, State.init, S2rPc.signalled]
  s2cToken := by simp [s2cToken_iff, State.init, R2sPc.signalled]
  notDialled _ := by
    simp [notDialled_iff, State.init, S2rPc.running, R2sPc.running, S2cPc.busy, ProxyPc.dialled, C2sPc.dialled]
  toldToEnd _ := by simp [toldToEnd_iff, State.init, S2rPc.ended, R2sPc.ended, S2cPc.ended]
  starting := by simp [starting_iff, State.init, State.startingIs, ProxyPc.starting, C2sPc.starting]
  readerLife := by simp [readerLife_iff, State.init]

theorem control_step {M : Codec} {s : State} {a : Act} (h : Control s) (hg : Guard s a) : Control (Step M s a) where
  launched := launched_step h.launched hg
  s2rToken := s2rToken_step h.launched h.s2rToken hg
  r2sToken := r2sToken_step h.launched h.r2sToken hg
  s2cToken := s2cToken_step h.launched h.s2cToken hg
  notDialled := notDialled_step h.notDialled hg
  toldToEnd := toldToEnd_step h.launched h.s2rToken h.r2sToken h.s2cToken h.notDialled h.toldToEnd hg
  starting := starting_step h.launched h.s2rToken h.r2sToken h.notDialled h.toldToEnd h.starting hg
  readerLife := readerLife_step h.launched h.readerLife hg

/-- The control invariant holds in every state of every run. -/
theorem control_of_reach {M : Codec} {P : State → Act → Prop} {s : State} (hr : (session M).Reach P s) : Control s := by
  refine hr.induct (I := Control) control_init ?_
  intro s a _ h he _
  exact control_step h he.2

end SnakeSocks.Go
