import SnakeSocks.Go.Relay

/-!
# The end of a session

An `End` token travels on a channel of its own and overtakes the data it should follow: `deals2r` and `deals2c` take
whichever of the two ready cases `select` picks. Where the token is only taken from an empty data channel nothing is
lost.
-/

namespace SnakeSocks.Go

open ByteLib

/-- A `Write` returns an error. -/
def Act.writeFails : Act → Bool
  | .dnsHeaderErr .. | .dnsBodyErr .. | .s2rWriteErr .. | .s2cHeaderErr .. | .s2cBodyErr .. => true
  | _ => false

/-- No `Write` and no `Dial` fails, `ReadB` fails only because the client has closed, and a token is taken only while
the data channel beside it is empty. -/
def Orderly (s : State) : Act → Prop
  | .s2rEnd => s.chans2r = none
  | .s2cEnd => s.chans2c = none
  | .firstReadErr | .c2sReadErr => s.cliClosed = true
  | .firstDialErr _ | .c2sDialErr _ => False
  | .dnsHeaderErr .. | .dnsBodyErr .. | .s2rWriteErr .. | .s2cHeaderErr .. | .s2cBodyErr .. => False
  | _ => True

instance (s : State) : ∀ a, Decidable (Orderly s a) := by
  intro a
  apply Act.casesOn (motive := fun a => Decidable (Orderly s a)) a <;> intros <;> dsimp only [Orderly] <;> infer_instance

/-- `deals2r` ended with its channel empty and its producer gone. -/
def State.S2rDrained (s : State) : Prop := s.s2r.ended = true → s.inputEnded ∧ s.chans2r = none

/-- While the client is connected `dealc2s` runs, `dealr2s` outlives its reader and `deals2c` outlives both. -/
@[mk_iff]
structure Connected (s : State) : Prop where
  c2s : s.c2s.over = false
  r2s : s.r2s.ended = true → s.reader = .idle ∨ s.reader = .done
  s2c : s.s2c.ended = true → s.r2s.ended = true ∧ s.chans2c = none

section
variable {M : Codec} {s : State} {a : Act}

theorem losesDst_of_orderly (h : Orderly s a) : a.losesDst = false := by
  cases a <;> first | rfl | exact h.elim

theorem losesCli_of_orderly (h : Orderly s a) : a.losesCli = false := by
  cases a <;> first | rfl | exact h.elim

/-- In its first `select` `deals2r` has no data waiting. -/
theorem empty_of_select0 (hc : Control s) (h0 : s.s2r = .select0) : s.chans2r = none := by
  rcases hc.starting.s2r_waits h0 with h | h
  · exact (hc.notDialled h).chans2r
  · exact hc.starting.empty h

theorem s2rDrained_step (hc : Control s) (h : s.S2rDrained) (hg : Guard s a) (ho : Orderly s a) :
    (Step M s a).S2rDrained := by
  cases a
  -- `deals2r` ends in `s2rEnd0` and `s2rEnd`
  case s2rEnd0 =>
    have he : s.chans2r = none := empty_of_select0 hc hg.1
    exact fun _ => ⟨hc.s2rToken.sent hg.2, he⟩
  case s2rEnd => exact fun _ => ⟨hc.s2rToken.sent hg.2, ho⟩
  case s2rWriteErr => exact ho.elim
  -- afterwards nobody is left to push
  case firstPush d =>
    intro hs
    have hp : s.proxy = .feed (.push d) := hg.1
    have hi := hc.launched.c2s_eq_idle (by rw [hp]; rfl) (by simp [hp])
    rcases (h hs).1 with hq | ⟨-, hq⟩
    · simp [hi, C2sPc.signalled] at hq
    · simp [hp, ProxyPc.returned] at hq
  case c2sPush =>
    intro hs
    rcases (h hs).1 with hq | ⟨hq, -⟩
    · simp [hg.1, C2sPc.signalled] at hq
    · simp [hg.1] at hq
  all_goals
    -- the others end nobody and put nothing on `chans2r`
    have hl1 := hc.launched.c2s_idle
    have hl2 := hc.launched.c2s_add1
    have hl3 := hc.launched.s2r_idle
    simp only [State.S2rDrained, State.inputEnded] at h ⊢
    simp only [Guard, Step] at hg ⊢
    first | with_reducible exact h | grind -ring -linarith

/-- The token of `deals2r` reaches a running `dealr2s` only after the client has gone. -/
theorem not_connected_of_token (hc : Control s) (hd : s.S2rDrained) (h : Connected s) (ht : 0 < s.chanr2sEnd)
    (hr : s.r2s = .select1) : False := by
  rcases (hd (S2rPc.ended_of_signalled (hc.r2sToken.sent ht))).1 with hs | ⟨hi, hp⟩
  · have := h.c2s
    cases hq : s.c2s <;> simp_all [C2sPc.signalled, C2sPc.over]
  · have := (hc.notDialled (hc.launched.aborted hi hp)).r2s
    simp [hr, R2sPc.running] at this

theorem connected_step (hc : Control s) (hd : s.S2rDrained) (h : s.cliClosed = false → Connected s) (hg : Guard s a)
    (ho : Orderly s a) : (Step M s a).cliClosed = false → Connected (Step M s a) := by
  cases a
  case firstDialErr | c2sDialErr | s2rWriteErr | s2cHeaderErr | s2cBodyErr => exact ho.elim
  -- `dealc2s` ends because the client has
  case c2sReadErr =>
    intro hcl
    cases hcl.symm.trans ho
  -- `dealr2s` ends before it has a reader, or behind its reader; the token comes with the client's end
  case r2sEnd0 =>
    intro hcl
    refine ⟨(h hcl).c2s, fun _ => .inl ?_, fun hs => ⟨rfl, ((h hcl).s2c hs).2⟩⟩
    exact hc.readerLife.idle (by rw [hg.1]; rfl)
  case r2sErr =>
    intro hcl
    exact ⟨(h hcl).c2s, fun _ => .inr (hc.readerLife.eCh hg.2), fun hs => ⟨rfl, ((h hcl).s2c hs).2⟩⟩
  case r2sEnd => exact fun hcl => (not_connected_of_token hc hd (h hcl) hg.2 hg.1).elim
  -- `deals2c` ends behind both
  case s2cEnd =>
    intro hcl
    exact ⟨(h hcl).c2s, (h hcl).r2s, fun _ => ⟨R2sPc.ended_of_signalled (hc.s2cToken.sent hg.1 hg.2), ho⟩⟩
  all_goals
    -- the others end none of the three
    have hl4 := hc.launched.r2s_idle
    have hl5 := hc.launched.s2c_idle
    have hr := hc.readerLife.idle
    simp only [connected_iff] at h ⊢
    simp only [Guard, Step] at hg ⊢
    first | with_reducible exact h | grind -ring -linarith

/-- What holds along an orderly run. -/
structure OrderlyInv (M : Codec) (s : State) : Prop where
  dst : DstFlow [] [] s
  cli : CliFlow M [] s
  drained : s.S2rDrained
  connected : s.cliClosed = false → Connected s

theorem orderlyInv_of_reach (hr : (session M).Reach Orderly s) : OrderlyInv M s := by
  refine hr.induct (I := OrderlyInv M) ⟨dstFlow_init, cliFlow_init, ?_, fun _ => ?_⟩ ?_
  · intro h
    simp [session, State.init, S2rPc.ended] at h
  · constructor <;> simp [session, State.init, C2sPc.over, R2sPc.ended, S2cPc.ended]
  · intro s a hr h he ho
    have hc := control_of_reach hr
    exact ⟨dstFlow_step hc.launched h.dst he.2 (losesDst_of_orderly ho), cliFlow_step hc h.cli he.2 (losesCli_of_orderly ho),
      s2rDrained_step hc h.drained he.2 ho, connected_step hc h.drained h.connected he.2 ho⟩

/-- Nothing is on its way to the destination once `deals2r` has ended. -/
theorem toDst_nil (hc : Control s) (hd : s.S2rDrained) (he : s.s2r.ended = true) : s.toDst = [] := by
  obtain ⟨hin, hch⟩ := hd he
  have hs : s.s2r.pending = [] := by cases h : s.s2r <;> simp_all [S2rPc.ended, S2rPc.pending]
  have hq : s.c2s.pending = [] ∧ s.proxy.pending = [] := by
    rcases hin with h | ⟨hi, hp⟩
    · have hne : s.c2s ≠ .idle := by
        intro h'
        simp [h', C2sPc.signalled] at h
      refine ⟨?_, (one_producer hc.launched).resolve_left hne⟩
      cases h' : s.c2s <;> simp_all [C2sPc.signalled, C2sPc.pending]
    · refine ⟨by rw [hi]; rfl, ?_⟩
      cases h' : s.proxy <;> simp_all [ProxyPc.returned, ProxyPc.pending]
  simp [State.toDst, hs, hch, hq.1, hq.2]

/-- Nothing is on its way to a connected client once `deals2c` has ended. -/
theorem toCli_nil (hc : Control s) (hcon : Connected s) (he : s.s2c.ended = true) : s.toCli M = [] := by
  obtain ⟨hr, hch⟩ := hcon.s2c he
  have hp : s.proxy.toCli = [] := by
    refine ProxyPc.toCli_nil (eq_false_of_ne_true fun h => ?_)
    simp [(quiet_before_dial hc h).2.1] at he
  have hs : s.s2c.toCli M = [] := by cases h : s.s2c <;> simp_all [S2cPc.ended, S2cPc.toCli]
  have hrd : s.reader.pending = [] := by
    rcases hcon.r2s hr with h | h <;> (rw [h]; rfl)
  simp [State.toCli, State.fromDst, hp, hs, hch, hrd, frames_nil]

/-- In every orderly run all payloads decoded are written to the destination when `deals2r` ends, and all chunks read
are sent to a client that is still there when `deals2c` ends. -/
theorem orderly_close (hr : (session M).Reach Orderly s) :
    (s.s2r.ended = true → s.dstOut = s.decoded.flatten) ∧
    (s.s2c.ended = true → s.cliClosed = false → s.cliOut = s.dnsFrame ++ frames M s.chunks) := by
  have hc := control_of_reach hr
  obtain ⟨hdst, hcli, hd, hcon⟩ := orderlyInv_of_reach hr
  constructor
  · intro he
    have hsum := hdst.sum
    simpa [toDst_nil hc hd he] using hsum
  · intro he hcl
    have hsum := hcli.sum
    simpa [toCli_nil hc (hcon hcl) he] using hsum

end

/-- The destination closes after its reply. -/
def replyEnd : List Act := [.dstClose, .readerReadErr, .readerSendErr, .r2sErr, .r2sExit]

theorem orderly_close_short_talk : ∃ s, (session plainCodec).Reach Orderly s ∧ s.s2r.ended = true ∧ s.s2c.ended = true ∧
    s.dstOut = [7] ∧ (s.s2r.ended = true → s.dstOut = s.decoded.flatten) ∧
    (s.s2c.ended = true → s.cliClosed = false → s.cliOut = s.dnsFrame ++ frames plainCodec s.chunks) := by
  obtain ⟨s, hr, h1, h2, h3⟩ : ∃ s, (session plainCodec).Reach Orderly s ∧ s.s2r.ended = true ∧ s.s2c.ended = true ∧
      s.dstOut = [7] :=
    ⟨_, Lts.System.replay_reach (shortTalk ++ replyEnd ++ [.s2cEnd, .cliClose, .c2sReadErr, .c2sExit, .s2rEnd]) .init rfl,
      rfl, rfl, rfl⟩
  exact ⟨s, hr, h1, h2, h3, orderly_close hr⟩

/-- No `Write` and no `Dial` fails, and both directions lose data: `deals2r` takes the token of `dealc2s` before the
packet, `deals2c` that of `dealr2s` before the reply. -/
theorem token_overtakes_data :
    (∃ s, (session plainCodec).Reach (fun _ a => a.writeFails = false) s ∧ s.cliClosed = true ∧ s.s2r.ended = true ∧
      s.decoded = [[7]] ∧ s.dstOut = []) ∧
    ∃ s, (session plainCodec).Reach (fun _ a => a.writeFails = false) s ∧ s.dstClosed = true ∧ s.cliClosed = false ∧
      s.s2c.ended = true ∧ s.chunks = [[1, 2]] ∧ s.cliOut = [] :=
  ⟨⟨_, Lts.System.replay_reach (quickClient ++ [.wgAdd1, .c2sReadErr, .c2sExit, .s2rEnd]) .init rfl, by decide⟩,
   ⟨_, Lts.System.replay_reach (shortTalk.take 19 ++ replyEnd ++ [.s2cEnd]) .init rfl, by decide⟩⟩

end SnakeSocks.Go
