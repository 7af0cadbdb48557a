import SnakeSocks.Go.Accounting

/-!
# What a session writes

Both directions are one equation each: what is written, what is still on its way in order, and what an error cut out
add up to everything decoded, or to the DNS answer's frame and one frame per chunk.
-/

namespace SnakeSocks.Go

open ByteLib

/-! ## Towards the destination -/

@[grind =] def Feed.payload : Feed → Bytes
  | .dial q => q.payload
  | .start _ d | .push d => d

@[grind =] def ProxyPc.pending : ProxyPc → Bytes
  | .feed f => f.payload
  | .goS2r | .goR2s | .goS2c | .add3 | .read | .decode _ | .lookup _ | .dnsEncode .. | .dnsHeader .. | .dnsBody ..
  | .goC2s | .add1 | .errEnd | .wait | .close | .done => []

@[grind =] def C2sPc.pending : C2sPc → Bytes
  | .feed f => f.payload
  | .idle | .read | .decode _ | .exit | .wgDone | .done => []

@[grind =] def S2rPc.pending : S2rPc → Bytes
  | .write d => d
  | .idle | .select0 | .loop | .exit | .wgDone | .done => []

/-- Decoded bytes on their way to the destination, in order. -/
def State.toDst (s : State) : Bytes := s.s2r.pending ++ s.chans2r.getD [] ++ s.c2s.pending ++ s.proxy.pending

/-- `dealc2s` has left its loop. -/
@[grind =] def C2sPc.over : C2sPc → Bool
  | .exit | .wgDone | .done => true
  | .idle | .read | .decode _ | .feed _ => false

/-- More payloads may be decoded. -/
def State.Producing (s : State) : Prop :=
  s.c2s.over = false ∧ (s.c2s = .idle → s.proxy ≠ .errEnd ∧ s.proxy.returned = false)

/-- `cut` was in the failed `Write` of `deals2r`, `dropped` is the payload of a failed dial. -/
@[mk_iff]
structure DstFlow (cut dropped : Bytes) (s : State) : Prop where
  sum : s.dstOut ++ cut ++ s.toDst ++ dropped = s.decoded.flatten
  cut_nil : s.s2r.ended = false → cut = []
  dropped_nil : s.Producing → dropped = []

@[grind =] theorem Feed.payload_next (again : Bool) (d : Bytes) : (Feed.next again d).payload = d := by
  cases again <;> rfl

@[grind =] theorem Feed.payload_ofQuery (dst : Option (Vector UInt8 16 × UInt16)) (q : Query) :
    (Feed.ofQuery dst q).payload = q.payload := by
  unfold Feed.ofQuery
  split <;> rfl

@[grind =] theorem pending_ofFirst (dst : Option (Vector UInt8 16 × UInt16)) (q : Query) :
    (ProxyPc.ofFirst dst q).pending = (firstData q).flatten := by
  unfold firstData ProxyPc.ofFirst
  split
  · rfl
  · simp [ProxyPc.pending, Feed.payload_ofQuery]

/-- The steps that lose bytes on the way to the destination. -/
def Act.losesDst : Act → Bool
  | .firstDialErr _ | .c2sDialErr _ | .s2rWriteErr .. => true
  | _ => false

section
variable {M : Codec} {s : State} {a : Act}

/-- While `dealc2s` runs `proxy` holds nothing, and the other way round. -/
theorem one_producer (hl : Launched s) : s.c2s = .idle ∨ s.proxy.pending = [] := by
  by_cases hi : s.c2s = .idle
  · exact .inl hi
  · refine .inr ?_
    rcases hl.c2s_idle hi with h | h
    · rw [h]; rfl
    · cases hp : s.proxy <;> simp_all [ProxyPc.returned, ProxyPc.pending]

theorem dstFlow_step (hl : Launched s) {cut dropped : Bytes} (h : DstFlow cut dropped s) (hg : Guard s a)
    (ha : a.losesDst = false) : DstFlow cut dropped (Step M s a) := by
  have hone := one_producer hl
  have hsum := h.sum
  rw [State.toDst] at hsum
  cases a
  case firstDecode pkt =>
    -- the first payload is in the hands of `proxy`
    have hp : s.proxy = .decode pkt := hg
    have hi := hl.c2s_eq_idle (by rw [hp]; rfl) (by simp [hp])
    have hd := h.dropped_nil ⟨by rw [hi]; rfl, fun _ => by rw [hp]; exact ⟨by simp, rfl⟩⟩
    refine ⟨?_, h.cut_nil, fun _ => hd⟩
    simp only [hp, hi, hd, ProxyPc.pending, C2sPc.pending, List.append_nil] at hsum
    simp only [Step, State.toDst, hi, hd, pending_ofFirst, C2sPc.pending, List.append_nil, List.flatten_append, ← hsum,
      List.append_assoc]
  case c2sDecode pkt =>
    have hp : s.c2s = .decode pkt := hg
    have hpr : s.proxy.pending = [] := hone.resolve_left (by simp [hp])
    have hd := h.dropped_nil ⟨by rw [hp]; rfl, fun h => by simp [hp] at h⟩
    refine ⟨?_, h.cut_nil, fun _ => hd⟩
    simp only [hp, hpr, hd, C2sPc.pending, List.append_nil] at hsum
    simp [Step, State.toDst, hpr, hd, C2sPc.pending, Feed.payload_ofQuery, ← hsum]
  case firstPush d =>
    obtain ⟨hp, hch⟩ := hg
    have hi := hl.c2s_eq_idle (by rw [hp]; rfl) (by simp [hp])
    refine ⟨?_, h.cut_nil, fun _ => h.dropped_nil ⟨by rw [hi]; rfl, fun _ => by rw [hp]; exact ⟨by simp, rfl⟩⟩⟩
    simp only [hp, hi, hch, ProxyPc.pending, C2sPc.pending, Feed.payload, Option.getD_none, List.append_nil] at hsum
    simpa [Step, State.toDst, hi, ProxyPc.pending, C2sPc.pending] using hsum
  case c2sPush d =>
    obtain ⟨hp, hch⟩ := hg
    have hpr : s.proxy.pending = [] := hone.resolve_left (by simp [hp])
    refine ⟨?_, h.cut_nil, fun _ => h.dropped_nil ⟨by rw [hp]; rfl, fun h => by simp [hp] at h⟩⟩
    simp only [hp, hpr, hch, C2sPc.pending, Feed.payload, Option.getD_none, List.append_nil] at hsum
    simpa [Step, State.toDst, hpr, C2sPc.pending] using hsum
  case s2rTake d =>
    obtain ⟨hp, hch⟩ := hg
    refine ⟨?_, fun _ => h.cut_nil (by rw [hp]; rfl), h.dropped_nil⟩
    simp only [hp, hch, S2rPc.pending, Option.getD_some, List.nil_append] at hsum
    simpa [Step, State.toDst, S2rPc.pending] using hsum
  case s2rWrite d =>
    have hp : s.s2r = .write d := hg
    have hc := h.cut_nil (by rw [hp]; rfl)
    refine ⟨?_, fun _ => hc, h.dropped_nil⟩
    simp only [hp, hc, S2rPc.pending, List.append_nil] at hsum
    simpa [Step, State.toDst, hc, S2rPc.pending] using hsum
  all_goals
    -- the others only move a counter between places that hold nothing
    have hl1 := hl.c2s_idle
    have hl2 := hl.s2r_idle
    clear hsum
    simp only [dstFlow_iff, State.toDst, State.Producing] at h ⊢
    simp only [Guard, Step, Act.losesDst] at hg ha ⊢
    first | with_reducible exact h | grind -ring -linarith

/-- A failed dial drops its payload, a failed `Write` the rest of its chunk. -/
theorem dstFlow_loses (hl : Launched s) {cut dropped : Bytes} (h : DstFlow cut dropped s) (hg : Guard s a)
    (ha : a.losesDst = true) : ∃ cut' dropped', DstFlow cut' dropped' (Step M s a) := by
  obtain ⟨hsum, hcut, hdrop⟩ := h
  have hone := one_producer hl
  cases a with
  | firstDialErr q =>
    have hp : s.proxy = .feed (.dial q) := hg
    have hi := hl.c2s_eq_idle (by rw [hp]; rfl) (by simp [hp])
    have hd := hdrop ⟨by rw [hi]; rfl, fun _ => by rw [hp]; exact ⟨by simp, rfl⟩⟩
    refine ⟨cut, q.payload, ?_, hcut, fun h => absurd rfl (h.2 hi).1⟩
    show _ = s.decoded.flatten
    rw [← hsum, hd]
    simp [Step, State.toDst, hp, hi, ProxyPc.pending, C2sPc.pending, Feed.payload]
  | c2sDialErr q =>
    have hp : s.c2s = .feed (.dial q) := hg
    have hpr : s.proxy.pending = [] := by
      rcases hone with h | h
      · simp [hp] at h
      · exact h
    have hd := hdrop ⟨by rw [hp]; rfl, fun h => by simp [hp] at h⟩
    refine ⟨cut, q.payload, ?_, hcut, fun h => ?_⟩
    · show _ = s.decoded.flatten
      rw [← hsum, hd]
      simp [Step, State.toDst, hp, hpr, C2sPc.pending, Feed.payload]
    · exact absurd h.1 (by simp [Step, C2sPc.over])
  | s2rWriteErr d k =>
    have hp : s.s2r = .write d := hg
    have hc := hcut (by rw [hp]; rfl)
    refine ⟨d.drop k, dropped, ?_, fun h => ?_, hdrop⟩
    · show _ = s.decoded.flatten
      rw [← hsum, hc]
      simp only [Step, State.toDst, hp, S2rPc.pending, List.append_assoc, List.nil_append]
      rw [← List.append_assoc (d.take k), List.take_append_drop]
    · simp [Step, S2rPc.ended] at h
  | _ => simp [Act.losesDst] at ha

theorem dstFlow_init : DstFlow [] [] .init := by
  constructor <;> simp [State.init, State.toDst, S2rPc.pending, C2sPc.pending, ProxyPc.pending]

theorem dstFlow_of_reach {P : State → Act → Prop} (hr : (session M).Reach P s) :
    ∃ cut dropped, DstFlow cut dropped s := by
  refine hr.induct (I := fun s => ∃ cut dropped, DstFlow cut dropped s) ⟨[], [], dstFlow_init⟩ ?_
  rintro s a hr ⟨cut, dropped, h⟩ he _
  have hl := (control_of_reach hr).launched
  cases ha : a.losesDst with
  | true => exact dstFlow_loses hl h he.2 ha
  | false => exact ⟨cut, dropped, dstFlow_step hl h he.2 ha⟩

end

/-! ## Towards the client -/

/-- The frame `deals2c` writes for a chunk. -/
def chunkFrame (M : Codec) (d : Bytes) : Bytes := frame (M.encode (chunkQuery d))

def frames (M : Codec) (ds : List Bytes) : Bytes := (ds.map (chunkFrame M)).flatten

@[grind =] theorem frames_append (M : Codec) (ds es : List Bytes) : frames M (ds ++ es) = frames M ds ++ frames M es := by
  simp [frames]

@[grind =] theorem frames_nil (M : Codec) : frames M [] = [] := rfl

@[grind =] theorem frames_singleton (M : Codec) (d : Bytes) : frames M [d] = chunkFrame M d := by
  simp [frames]

@[grind =] def ProxyPc.toCli : ProxyPc → Bytes
  | .dnsHeader body _ => frame body
  | .dnsBody body _ => body
  | .goS2r | .goR2s | .goS2c | .add3 | .read | .decode _ | .lookup _ | .dnsEncode .. | .feed _
  | .goC2s | .add1 | .errEnd | .wait | .close | .done => []

@[grind =] def S2cPc.toCli (M : Codec) : S2cPc → Bytes
  | .encode d => chunkFrame M d
  | .header b => frame b
  | .body b => b
  | .idle | .loop | .exit | .wgDone | .done => []

@[grind =] def ReaderPc.pending : ReaderPc → List Bytes
  | .push d => [d]
  | .idle | .read | .sendErr | .done => []

/-- What came from the destination and is on its way to the client, in order; a chunk counts as the frame it will
become. -/
def State.fromDst (M : Codec) (s : State) : Bytes :=
  s.s2c.toCli M ++ (frames M s.chans2c.toList ++ frames M s.reader.pending)

/-- Bytes on their way to the client, in order. -/
def State.toCli (M : Codec) (s : State) : Bytes := s.proxy.toCli ++ s.fromDst M

/-- `checkFirst` has given no DNS answer yet. -/
@[grind =] def ProxyPc.beforeAnswer : ProxyPc → Bool
  | .goS2r | .goR2s | .goS2c | .add3 | .read | .decode _ | .lookup _ | .dnsEncode .. => true
  | .dnsHeader .. | .dnsBody .. | .feed _ | .goC2s | .add1 | .errEnd | .wait | .close | .done => false

/-- The session stopped in `checkFirst`. -/
def State.Aborted (s : State) : Prop := s.c2s = .idle ∧ (s.proxy = .errEnd ∨ s.proxy.returned = true)

/-- `cut` was in a failed `Write` to the client. -/
@[mk_iff]
structure CliFlow (M : Codec) (cut : Bytes) (s : State) : Prop where
  sum : s.cliOut ++ cut ++ s.toCli M = s.dnsFrame ++ frames M s.chunks
  cut_nil : s.s2c.ended = false → ¬s.Aborted → cut = []
  early : s.proxy.beforeAnswer = true → s.dnsFrame = []

/-- The steps that lose bytes on the way to the client. -/
def Act.losesCli : Act → Bool
  | .dnsHeaderErr .. | .dnsBodyErr .. | .s2cHeaderErr .. | .s2cBodyErr .. => true
  | _ => false

section
variable {M : Codec} {s : State} {a : Act}

/-- In `checkFirst` before the dial nothing has come from the destination and nobody has ended. -/
theorem quiet_before_dial (hc : Control s) (h : s.proxy.beforeDial = true) :
    s.c2s = .idle ∧ s.s2c.ended = false ∧ s.s2c.busy = false ∧ s.chans2c = none ∧ s.reader = .idle ∧ s.chunks = [] := by
  have hp : s.proxy.returned = false ∧ s.proxy ≠ .add1 := by
    cases hp : s.proxy <;> simp_all [ProxyPc.beforeDial, ProxyPc.returned]
  have hi := hc.launched.c2s_eq_idle hp.1 hp.2
  have hd := hc.launched.early h
  have hn := hc.notDialled hd
  have hin : ¬s.inputEnded := by simp [State.inputEnded, hi, hp.1, C2sPc.signalled]
  exact ⟨hi, ((hc.toldToEnd hd).none_ended hin).2.2, hn.s2c, hn.chans2c, hn.reader, hn.chunks⟩

/-- `deals2c` has a chunk only when a destination was dialled. -/
theorem not_aborted_of_busy (hc : Control s) (h : s.s2c.busy = true) : ¬s.Aborted := by
  rintro ⟨hi, hp | hp⟩
  · have := (quiet_before_dial hc (by rw [hp]; rfl)).2.2.1
    simp [h] at this
  · have := (hc.notDialled (hc.launched.aborted hi hp)).s2c
    simp [h] at this

theorem ProxyPc.toCli_nil {p : ProxyPc} (h : p.beforeDial = false) : p.toCli = [] := by
  cases p <;> simp_all [ProxyPc.beforeDial, ProxyPc.toCli]

/-- A question or data: either way nothing is written to the client yet. -/
theorem toCli_ofFirst (dst : Option (Vector UInt8 16 × UInt16)) (q : Query) : (ProxyPc.ofFirst dst q).toCli = [] := by
  unfold ProxyPc.ofFirst
  split <;> rfl

/-- While `checkFirst` writes the DNS answer nothing is lost yet and nothing has come from the destination. -/
theorem answer_alone (hc : Control s) {cut : Bytes} (h : CliFlow M cut s) (hd : s.proxy.beforeDial = true)
    (he : s.proxy ≠ .errEnd) : s.c2s = .idle ∧ cut = [] ∧ s.fromDst M = [] ∧ s.chunks = [] := by
  obtain ⟨hi, hend, hbusy, hch, hrd, hck⟩ := quiet_before_dial hc hd
  refine ⟨hi, h.cut_nil hend ?_, ?_, hck⟩
  · rintro ⟨-, h' | h'⟩
    · exact he h'
    · cases hp : s.proxy <;> simp_all [ProxyPc.beforeDial, ProxyPc.returned]
  · have hs : s.s2c.toCli M = [] := by cases hs : s.s2c <;> simp_all [S2cPc.busy, S2cPc.toCli]
    simp [State.fromDst, hs, hch, hrd, ReaderPc.pending, frames_nil]

/-- While `deals2c` writes a frame nothing is lost yet and nothing of `checkFirst` is left. -/
theorem frame_alone (hc : Control s) {cut : Bytes} (h : CliFlow M cut s) (hbusy : s.s2c.busy = true) :
    cut = [] ∧ s.proxy.toCli = [] := by
  constructor
  · refine h.cut_nil ?_ (not_aborted_of_busy hc hbusy)
    cases hs : s.s2c <;> simp_all [S2cPc.busy, S2cPc.ended]
  · refine ProxyPc.toCli_nil (eq_false_of_ne_true fun hd => ?_)
    simp [(quiet_before_dial hc hd).2.2.1] at hbusy

theorem cliFlow_step (hc : Control s) {cut : Bytes} (h : CliFlow M cut s) (hg : Guard s a) (ha : a.losesCli = false) :
    CliFlow M cut (Step M s a) := by
  have hq := quiet_before_dial hc
  have hb := not_aborted_of_busy hc
  have hb' := fun hbusy => (frame_alone hc h hbusy).2
  have hl := hc.launched.c2s_idle
  have hl5 := hc.launched.s2c_idle
  have hr := hc.readerLife.idle
  cases a
  case firstDecode pkt =>
    have hp : s.proxy = .decode pkt := hg
    refine ⟨?_, fun h1 h2 => h.cut_nil h1 ?_, fun _ => h.early (by rw [hp]; rfl)⟩
    · have hnil : s.proxy.toCli = [] := by rw [hp]; rfl
      have hsum := h.sum
      simp only [State.toCli, hnil] at hsum
      show s.cliOut ++ cut ++ ((ProxyPc.ofFirst s.dst (M.decode pkt)).toCli ++ s.fromDst M) = _
      rw [toCli_ofFirst]
      exact hsum
    · rintro ⟨-, h' | h'⟩ <;> simp [hp, ProxyPc.returned] at h'
  case dnsEncode q failed =>
    -- so far nothing was written to the client
    have hp : s.proxy = .dnsEncode q failed := hg
    obtain ⟨-, hcut, hrest, hck⟩ := answer_alone hc h (by rw [hp]; rfl) (by simp [hp])
    have hout : s.cliOut = [] := by
      have hsum := h.sum
      rw [h.early (by rw [hp]; rfl), hck] at hsum
      simp only [frames_nil, List.append_nil, List.append_eq_nil_iff] at hsum
      exact hsum.1.1
    refine ⟨?_, fun _ _ => hcut, fun h => by simp [Step, ProxyPc.beforeAnswer] at h⟩
    show s.cliOut ++ cut ++ (frame (M.encode q) ++ s.fromDst M) = frame (M.encode q) ++ frames M s.chunks
    simp [hout, hcut, hrest, hck, frames_nil]
  case s2cHeader body =>
    have hp : s.s2c = .header body := hg
    obtain ⟨hcut, hpr⟩ := frame_alone hc h (by rw [hp]; rfl)
    refine ⟨?_, fun _ _ => hcut, h.early⟩
    have hsum := h.sum
    simp only [State.toCli, State.fromDst, hpr, hcut, hp, S2cPc.toCli, frame, List.append_nil, List.nil_append] at hsum
    simpa [Step, State.toCli, State.fromDst, hpr, hcut, S2cPc.toCli] using hsum
  case s2cBody body =>
    have hp : s.s2c = .body body := hg
    obtain ⟨hcut, hpr⟩ := frame_alone hc h (by rw [hp]; rfl)
    refine ⟨?_, fun _ _ => hcut, h.early⟩
    have hsum := h.sum
    simp only [State.toCli, State.fromDst, hpr, hcut, hp, S2cPc.toCli, List.append_nil, List.nil_append] at hsum
    simpa [Step, State.toCli, State.fromDst, hpr, hcut, S2cPc.toCli] using hsum
  all_goals
    simp only [cliFlow_iff, State.toCli, State.fromDst, State.Aborted] at h hb ⊢
    simp only [Guard, Step, Act.losesCli] at hg ha ⊢
    first | with_reducible exact h | grind -ring -linarith [frame, chunkFrame]

/-- A failed `Write` cuts the rest of its frame. -/
theorem cliFlow_loses (hc : Control s) {cut : Bytes} (h : CliFlow M cut s) (hg : Guard s a) (ha : a.losesCli = true) :
    ∃ cut', CliFlow M cut' (Step M s a) := by
  have hsum := h.sum
  cases a with
  | dnsHeaderErr body failed k =>
    have hp : s.proxy = .dnsHeader body failed := hg
    obtain ⟨hi, hcut, hrest, -⟩ := answer_alone hc h (by rw [hp]; rfl) (by simp [hp])
    refine ⟨(frameHeader body).drop k ++ body, ?_, fun _ h => absurd ⟨hi, .inl rfl⟩ h, fun h => ?_⟩
    · show s.cliOut ++ (frameHeader body).take k ++ ((frameHeader body).drop k ++ body) ++ ([] ++ s.fromDst M) = _
      refine Eq.trans ?_ hsum
      rw [hcut, State.toCli, hrest, hp, ProxyPc.toCli, frame]
      simp only [List.append_assoc, List.append_nil]
      rw [← List.append_assoc ((frameHeader body).take k), List.take_append_drop]
    · simp [Step, ProxyPc.beforeAnswer] at h
  | dnsBodyErr body failed k =>
    have hp : s.proxy = .dnsBody body failed := hg
    obtain ⟨hi, hcut, hrest, -⟩ := answer_alone hc h (by rw [hp]; rfl) (by simp [hp])
    refine ⟨body.drop k, ?_, fun _ h => absurd ⟨hi, .inl rfl⟩ h, fun h => ?_⟩
    · show s.cliOut ++ body.take k ++ body.drop k ++ ([] ++ s.fromDst M) = _
      refine Eq.trans ?_ hsum
      rw [hcut, State.toCli, hrest, hp, ProxyPc.toCli]
      simp
    · simp [Step, ProxyPc.beforeAnswer] at h
  | s2cHeaderErr body k =>
    have hp : s.s2c = .header body := hg
    obtain ⟨hcut, hpr⟩ := frame_alone hc h (by rw [hp]; rfl)
    refine ⟨(frameHeader body).drop k ++ body, ?_, fun h => ?_, h.early⟩
    · rw [hcut] at hsum
      show _ = s.dnsFrame ++ frames M s.chunks
      rw [← hsum]
      simp only [Step, State.toCli, State.fromDst, hpr, hp, S2cPc.toCli, frame, List.append_assoc, List.nil_append]
      rw [← List.append_assoc ((frameHeader body).take k), List.take_append_drop]
    · simp [Step, S2cPc.ended] at h
  | s2cBodyErr body k =>
    have hp : s.s2c = .body body := hg
    obtain ⟨hcut, hpr⟩ := frame_alone hc h (by rw [hp]; rfl)
    refine ⟨body.drop k, ?_, fun h => ?_, h.early⟩
    · rw [hcut] at hsum
      show _ = s.dnsFrame ++ frames M s.chunks
      rw [← hsum]
      simp only [Step, State.toCli, State.fromDst, hpr, hp, S2cPc.toCli, List.append_assoc, List.nil_append]
      rw [← List.append_assoc (body.take k), List.take_append_drop]
    · simp [Step, S2cPc.ended] at h
  | _ => simp [Act.losesCli] at ha

theorem cliFlow_init : CliFlow M [] .init := by
  constructor <;> simp [State.init, State.toCli, State.fromDst, ProxyPc.toCli, S2cPc.toCli, ReaderPc.pending, frames_nil]

theorem cliFlow_of_reach {P : State → Act → Prop} (hr : (session M).Reach P s) : ∃ cut, CliFlow M cut s := by
  refine hr.induct (I := fun s => ∃ cut, CliFlow M cut s) ⟨[], cliFlow_init⟩ ?_
  rintro s a hr ⟨cut, h⟩ he _
  have hc := control_of_reach hr
  cases ha : a.losesCli with
  | true => exact cliFlow_loses hc h he.2 ha
  | false => exact ⟨cut, cliFlow_step hc h he.2 ha⟩

end

/-! ## What arrives from the client -/

/-- The data payloads of the client's packets, in order; the first packet may be a question. -/
def payloads (M : Codec) : List Bytes → List Bytes
  | [] => []
  | p :: ps => firstData (M.decode p) ++ ps.map fun p => (M.decode p).payload

theorem payloads_append (M : Codec) {ps : List Bytes} (h : ps ≠ []) (p : Bytes) :
    payloads M (ps ++ [p]) = payloads M ps ++ [(M.decode p).payload] := by
  cases ps with
  | nil => exact absurd rfl h
  | cons q qs => simp [payloads]

@[grind =] def ProxyPc.undecoded : ProxyPc → List Bytes
  | .decode pkt => [pkt]
  | .goS2r | .goR2s | .goS2c | .add3 | .read | .lookup _ | .dnsEncode .. | .dnsHeader .. | .dnsBody .. | .feed _
  | .goC2s | .add1 | .errEnd | .wait | .close | .done => []

@[grind =] def C2sPc.undecoded : C2sPc → List Bytes
  | .decode pkt => [pkt]
  | .idle | .read | .feed _ | .exit | .wgDone | .done => []

/-- `checkFirst` has not decoded the first packet. -/
@[grind =] def ProxyPc.beforeFirst : ProxyPc → Bool
  | .goS2r | .goR2s | .goS2c | .add3 | .read | .decode _ => true
  | .lookup _ | .dnsEncode .. | .dnsHeader .. | .dnsBody .. | .feed _ | .goC2s | .add1 | .errEnd | .wait | .close
  | .done => false

/-- `ps` are the packets decoded so far. -/
@[mk_iff]
structure Arrivals (M : Codec) (ps : List Bytes) (s : State) : Prop where
  arrived : s.taken.map some ++ s.cliIn <+: s.arrived
  all : s.cliClosed = false → s.taken.map some ++ s.cliIn = s.arrived
  taken : s.taken = ps ++ s.proxy.undecoded ++ s.c2s.undecoded
  decoded : s.decoded = payloads M ps
  first : s.proxy.beforeFirst = true → ps = []
  later : s.proxy.beforeFirst = false → s.c2s ≠ .idle ∨ s.proxy ≠ .errEnd ∧ s.proxy.returned = false → ps ≠ []

/-- The steps that decode a packet. -/
def Act.decodes : Act → Bool
  | .firstDecode _ | .c2sDecode _ => true
  | _ => false

section
variable {M : Codec} {s : State} {a : Act}

theorem arrivals_step (hl : Launched s) {ps : List Bytes} (h : Arrivals M ps s) (hg : Guard s a)
    (ha : a.decodes = false) : Arrivals M ps (Step M s a) := by
  have hl1 := hl.c2s_idle
  -- a packet that is read moves from one queue to the other
  have hmove : ∀ pkt, s.cliIn.head? = some (some pkt) →
      (s.taken ++ [pkt]).map some ++ s.cliIn.tail = s.taken.map some ++ s.cliIn := by
    intro pkt hq
    obtain ⟨rest, hrest⟩ := List.head?_eq_some_iff.1 hq
    simp [hrest]
  rw [arrivals_iff] at h ⊢
  cases a
  case cliSend p =>
    have hall := h.2.1 hg
    simp only [Step, ← List.append_assoc, hall]
    exact ⟨List.prefix_rfl, fun _ => trivial, h.2.2⟩
  case cliReset =>
    obtain ⟨harr, -, hrest⟩ := h
    simp only [Step, List.append_nil]
    exact ⟨(List.prefix_append _ _).trans harr, fun h => by simp at h, hrest⟩
  all_goals
    simp only [Guard, Step, Act.decodes] at hg ha ⊢
    first | with_reducible exact h | grind -ring -linarith

theorem arrivals_decodes (hl : Launched s) {ps : List Bytes} (h : Arrivals M ps s) (hg : Guard s a)
    (ha : a.decodes = true) : ∃ ps', Arrivals M ps' (Step M s a) := by
  obtain ⟨harr, hall, htaken, hdec, hfirst, hlater⟩ := h
  cases a with
  | firstDecode pkt =>
    have hp : s.proxy = .decode pkt := hg
    have hi := hl.c2s_eq_idle (by rw [hp]; rfl) (by simp [hp])
    have hps := hfirst (by rw [hp]; rfl)
    have hnew : (ProxyPc.ofFirst s.dst (M.decode pkt)).undecoded = [] ∧
        (ProxyPc.ofFirst s.dst (M.decode pkt)).beforeFirst = false := by
      unfold ProxyPc.ofFirst
      split <;> simp [ProxyPc.undecoded, ProxyPc.beforeFirst]
    refine ⟨[pkt], harr, hall, ?_, ?_, fun h => ?_, fun _ _ => by simp⟩
    · show s.taken = [pkt] ++ (ProxyPc.ofFirst s.dst (M.decode pkt)).undecoded ++ s.c2s.undecoded
      rw [hnew.1, htaken, hps, hi, hp]
      rfl
    · simp [Step, hdec, hps, payloads]
    · simp [Step, hnew.2] at h
  | c2sDecode pkt =>
    have hp : s.c2s = .decode pkt := hg
    have hne : s.c2s ≠ .idle := by simp [hp]
    have hpr : s.proxy.undecoded = [] ∧ s.proxy.beforeFirst = false := by
      rcases hl.c2s_idle hne with h | h
      · rw [h]; exact ⟨rfl, rfl⟩
      · cases hq : s.proxy <;> simp_all [ProxyPc.returned, ProxyPc.undecoded, ProxyPc.beforeFirst]
    have hps := hlater hpr.2 (.inl hne)
    refine ⟨ps ++ [pkt], harr, hall, ?_, ?_, fun h => ?_, fun _ _ => by simp⟩
    · simp [Step, hpr.1, htaken, hp, C2sPc.undecoded]
    · simp [Step, hdec, payloads_append M hps]
    · simp [Step, hpr.2] at h
  | _ => simp [Act.decodes] at ha

theorem arrivals_init : Arrivals M [] .init := by
  constructor <;> simp [State.init, ProxyPc.undecoded, C2sPc.undecoded, ProxyPc.beforeFirst, payloads]

theorem arrivals_of_reach {P : State → Act → Prop} (hr : (session M).Reach P s) : ∃ ps, Arrivals M ps s := by
  refine hr.induct (I := fun s => ∃ ps, Arrivals M ps s) ⟨[], arrivals_init⟩ ?_
  rintro s a hr ⟨ps, h⟩ he _
  have hl := (control_of_reach hr).launched
  cases ha : a.decodes with
  | true => exact arrivals_decodes hl h he.2 ha
  | false => exact ⟨ps, arrivals_step hl h he.2 ha⟩

/-- The DNS answer is `checkFirst`'s answer to a lookup. -/
structure AnswerKnown (M : Codec) (s : State) : Prop where
  encoding : ∀ q failed, s.proxy = .dnsEncode q failed → ∃ ip, q = dnsAnswer ip
  frame : s.dnsFrame = [] ∨ ∃ ip, s.dnsFrame = Go.frame (M.encode (dnsAnswer ip))

theorem answerKnown_step (h : AnswerKnown M s) (hg : Guard s a) : AnswerKnown M (Step M s a) := by
  obtain ⟨henc, hframe⟩ := h
  cases a with
  | dnsEncode q failed =>
    obtain ⟨ip, rfl⟩ := henc q failed hg
    exact ⟨fun q' f' h => by simp [Step] at h, .inr ⟨ip, rfl⟩⟩
  | lookup domain ip =>
    refine ⟨fun q' f' h => ?_, hframe⟩
    simp only [Step, ProxyPc.dnsEncode.injEq] at h
    exact ⟨ip, h.1.symm⟩
  | _ =>
    refine ⟨fun q' f' h => ?_, hframe⟩
    simp only [Step] at h
    first | with_reducible exact henc q' f' h | grind -ring -linarith

theorem answerKnown_of_reach {P : State → Act → Prop} (hr : (session M).Reach P s) : AnswerKnown M s := by
  refine hr.induct (I := AnswerKnown M) ⟨fun q f h => ?_, .inl rfl⟩ ?_
  · simp [session, State.init] at h
  · intro s a _ h he _
    exact answerKnown_step h he.2

/-- In every state of every run, whatever failed: what is written to the destination is a prefix of the data payloads
of the client's packets in the order they arrived, and what is written to the client a prefix of the DNS answer's frame,
if there is one, and one whole frame for every chunk read, in the order they were read. -/
theorem ordered_relay (hr : (session M).Reachable s) :
    (∃ ps : List Bytes, ps.map some <+: s.arrived ∧ s.decoded = payloads M ps ∧
      s.dstOut <+: (payloads M ps).flatten) ∧
    (s.dnsFrame = [] ∨ ∃ ip, s.dnsFrame = frame (M.encode (dnsAnswer ip))) ∧
    s.cliOut <+: s.dnsFrame ++ frames M s.chunks := by
  obtain ⟨ps, hps⟩ := arrivals_of_reach hr
  obtain ⟨cut, dropped, hdst⟩ := dstFlow_of_reach hr
  obtain ⟨cut', hcli⟩ := cliFlow_of_reach hr
  refine ⟨⟨ps, ?_, hps.decoded, ?_⟩, (answerKnown_of_reach hr).frame, ?_⟩
  · refine .trans ?_ hps.arrived
    simp [hps.taken, List.append_assoc]
  · rw [← hps.decoded, ← hdst.sum]
    simp [List.append_assoc]
  · rw [← hcli.sum]
    simp [List.append_assoc]

end

/-- One packet and a two byte reply. -/
def shortTalk : List Act :=
  [.goDeals2r, .goDealr2s, .goDeals2c, .wgAdd3, .cliSend (some [7]), .firstRead [7], .firstDecode [7],
   .firstDial ⟨Vector.replicate 16 0, 0, [7]⟩, .firstStartS2r true [7], .firstStartR2s false [7], .firstPush [7],
   .goDealc2s, .wgAdd1, .r2sSpawn, .s2rTake [7], .s2rWrite [7], .dstSend [1, 2], .readerRead 2, .readerPush [1, 2],
   .s2cTake [1, 2], .s2cEncode [1, 2], .s2cHeader [1, 2], .s2cBody [1, 2]]

theorem ordered_relay_short_talk : ∃ s, (session plainCodec).Reachable s ∧ s.dstOut = [7] ∧
    s.cliOut = [0, 0, 0, 2, 1, 2] ∧
    (∃ ps : List Bytes, ps.map some <+: s.arrived ∧ s.decoded = payloads plainCodec ps ∧
      s.dstOut <+: (payloads plainCodec ps).flatten) ∧
    (s.dnsFrame = [] ∨ ∃ ip, s.dnsFrame = frame (plainCodec.encode (dnsAnswer ip))) ∧
    s.cliOut <+: s.dnsFrame ++ frames plainCodec s.chunks := by
  obtain ⟨s, hr, hd, hc⟩ : ∃ s, (session plainCodec).Reachable s ∧ s.dstOut = [7] ∧ s.cliOut = [0, 0, 0, 2, 1, 2] :=
    ⟨_, Lts.System.replay_reach shortTalk .init rfl, rfl, by decide⟩
  exact ⟨s, hr, hd, hc, ordered_relay hr⟩

end SnakeSocks.Go
