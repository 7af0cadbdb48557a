import SnakeSocks.Go.Handle
import SnakeSocks.Go.Relay
import SnakeSocks.Lib.Owned

/-!
# The C memory of a connection of the Go server

| here | there |
| --- | --- |
| `Block` | the pointers to C memory that one connection has (`server.go:81`, `:105-112`, `:150-187`, `:226-247`, `:325-332`) |
| `Act.cCalls`, `HandleAct.cCalls` | `C.CString`, `C.free` and what the module takes, returns, keeps and leaves behind, by the step of the code they stand next to |
| `CModule` | `server_make_auth_reply` and `server_connection_close` of the two modules (`simple_proxy.c:99`, `:187`, `se_proxy.c:145`, `:273`) |

What the garbage collector does not see is allocated by `C.CString` (also inside `ReadB`, `util.go:64`) or returned by the
module, and released by `C.free` (also inside `WriteB`, `:70`) or by the module, which takes what it is given (`stdafx.h`). The
payload of a packet without one is `NULL`. `defer C.free` in `checkFirst` runs on each of its returns; in `dealc2s` there is no
`defer`, and the return behind a failed `dial` comes before the `free`. `se_proxy` frees neither `request` nor `tmpenc` when it
authenticates a client. What a call of the module allocates and frees by itself is left out.
-/

namespace SnakeSocks.Go

open ByteLib Ledger Owned

/-! ## Blocks -/

inductive Block where
  | passphrase
  | authPacket
  | authReply
  -- server_make_auth_reply of se_proxy
  | request
  | tmpenc
  /-- `additional_info`, if the module has one. -/
  | info
  -- checkFirst
  | firstPacket
  | firstPayload
  | answer
  | answerPacket
  -- dealc2s
  | c2sPacket
  | c2sPayload
  -- deals2c
  | s2cPayload
  | s2cPacket
deriving DecidableEq

inductive CCall where
  | gets (b : Block)
  | frees (b : Block)
  /-- No call: the variable with the last pointer to the block goes out of scope. -/
  | drops (b : Block)
deriving DecidableEq

def cChange : CCall → Change Block
  | .gets b => .opens b
  | .frees b => .closes b
  | .drops _ => .keeps

/-- The block behind a payload. -/
def blockOf (b : Block) (payload : Bytes) : List Block := if payload = [] then [] else [b]

inductive CModule where
  | simpleProxy
  | seProxy
deriving DecidableEq

/-- An accepted client gets an `additional_info`, which the closing call frees. -/
def CModule.keeps : CModule → Bool
  | .simpleProxy => false
  | .seProxy => true

/-- `server_make_auth_reply`, by whether it refuses the client. -/
def CModule.authCalls : CModule → Bool → List CCall
  | .simpleProxy, _ => [.gets .authReply, .frees .authPacket]
  | .seProxy, true => [.gets .request, .frees .authPacket, .gets .authReply, .drops .request]
  | .seProxy, false =>
    [.gets .request, .gets .tmpenc, .gets .authReply, .gets .info, .frees .authPacket, .drops .request, .drops .tmpenc]

/-! ## What the steps do -/

def Act.cCalls (M : Codec) (keeps : Bool) (s : State) : Act → List CCall
  | .firstRead _ => [.gets .firstPacket]
  | .firstDecode pkt => .frees .firstPacket :: (blockOf .firstPayload (M.decode pkt).payload).map .gets
  | .lookup _ _ => [.gets .answer]
  | .dnsEncode _ _ => [.frees .answer, .gets .answerPacket]
  | .dnsHeaderErr _ _ _ | .dnsBody _ _ | .dnsBodyErr _ _ _ => [.frees .answerPacket, .frees .firstPayload]
  | .firstDialErr q => (blockOf .firstPayload q.payload).map .frees
  | .firstPush d => (blockOf .firstPayload d).map .frees
  | .connClose => if keeps then [.frees .info] else []
  | .c2sRead _ => [.gets .c2sPacket]
  | .c2sDecode pkt =>
    .frees .c2sPacket :: ((blockOf .c2sPayload (M.decode pkt).payload).map .gets ++
      -- with a destination the next statement is the `free`
      if s.dst = none then [] else (blockOf .c2sPayload (M.decode pkt).payload).map .frees)
  | .c2sDialErr q => (blockOf .c2sPayload q.payload).map .drops
  | .c2sStartS2r again d | .c2sStartR2s again d => if again then [] else (blockOf .c2sPayload d).map .frees
  | .s2cTake _ => [.gets .s2cPayload]
  | .s2cEncode _ => [.frees .s2cPayload, .gets .s2cPacket]
  | .s2cHeaderErr _ _ | .s2cBody _ | .s2cBodyErr _ _ => [.frees .s2cPacket]
  | _ => []

def HandleAct.cCalls (M : Codec) (m : CModule) (h : Handling) : HandleAct → List CCall
  | .start => [.gets .passphrase]
  | .remoteAddr none | .authReadErr | .refuse | .leaveProxy => [.frees .passphrase]
  | .authRead _ => [.gets .authPacket]
  | .makeAuthReply _ _ isClose => m.authCalls isClose
  | .replyHeaderErr _ _ | .replyBody _ _ => [.frees .authReply]
  | .session a => (h.cli.map fun s => a.cCalls M m.keeps s).getD []
  | .returnNil | .remoteAddr (some _) | .replyHeader _ _ | .enterProxy => []

/-- `handle`, with the history of its C memory. -/
def cHeap (M : Codec) (m : CModule) (accepted : Bool) : Lts.System (Handling × List CCall) HandleAct :=
  (handling M accepted).recording fun h a => a.cCalls M m h

instance (M : Codec) (m : CModule) (accepted : Bool) (x : Handling × List CCall) (a : HandleAct) :
    Decidable ((cHeap M m accepted).enabled x a) :=
  inferInstanceAs (Decidable (HandleGuard M x.1 a))

/-! ## What a state holds -/

def ProxyPc.blocks : ProxyPc → List Block
  | .decode _ => [.firstPacket]
  | .lookup _ => [.firstPayload]
  | .dnsEncode _ _ => [.answer, .firstPayload]
  | .dnsHeader _ _ | .dnsBody _ _ => [.answerPacket, .firstPayload]
  | .feed f => blockOf .firstPayload f.payload
  | _ => []

/-- Behind `C.free` only the Go copy is left to be sent. -/
def C2sPc.blocks : C2sPc → List Block
  | .decode _ => [.c2sPacket]
  | .feed (.dial q) => blockOf .c2sPayload q.payload
  | .feed (.start _ d) => blockOf .c2sPayload d
  | _ => []

def S2cPc.blocks : S2cPc → List Block
  | .encode _ => [.s2cPayload]
  | .header _ | .body _ => [.s2cPacket]
  | _ => []

/-- `additional_info` until `server_connection_close`. -/
def ProxyPc.info (keeps : Bool) (pc : ProxyPc) : List Block := if keeps && pc ≠ .done then [.info] else []

def State.blocks (keeps : Bool) (s : State) : List Block :=
  s.proxy.blocks ++ s.proxy.info keeps ++ s.c2s.blocks ++ s.s2c.blocks

def HandlePc.blocks (keeps : Bool) : HandlePc → List Block
  | .entry _ | .returned => []
  | .remoteAddr | .authRead | .proxy => [.passphrase]
  | .makeAuthReply _ => [.authPacket, .passphrase]
  | .replyHeader _ isClose | .replyBody _ isClose => .authReply :: ((if keeps && !isClose then [.info] else []) ++ [.passphrase])
  | .verdict isClose => (if keeps && !isClose then [.info] else []) ++ [.passphrase]

def Handling.blocks (keeps : Bool) (h : Handling) : List Block :=
  ((h.cli.map (State.blocks keeps)).getD []) ++ h.pc.blocks keeps

/-- The blocks nobody has a pointer to any more. -/
def dropped (cs : List CCall) : List Block := cs.filterMap fun
  | .drops b => some b
  | _ => none

/-- What an authentication leaves behind. -/
def CModule.authLeft (m : CModule) (isClose : Bool) : List Block := Go.dropped (m.authCalls isClose)

/-- What may have been dropped before there is a session. -/
def HandlePc.dropped (m : CModule) (ds : List Block) : HandlePc → Prop
  | .replyHeader _ isClose | .replyBody _ isClose | .verdict isClose => ds = m.authLeft isClose
  | .returned => ds = [] ∨ ds = m.authLeft true
  | _ => ds = []

/-- In a session it is what the authentication left, and once `dealc2s` is over perhaps its last payload. -/
def Handling.dropped (m : CModule) (ds : List Block) (h : Handling) : Prop :=
  match h.cli with
  | none => h.pc.dropped m ds
  | some s => ds = m.authLeft false ∨ ds = m.authLeft false ++ [.c2sPayload] ∧ s.c2s.over = true

/-! ## One step of the session -/

section
variable {M : Codec} {keeps : Bool} {s t : State} {a : Act} {b : Block} {d : Bytes} {cs : List CCall}

theorem moves_gets (b : Block) (a : List Block) : Moves cChange a [.gets b] (b :: a) := moves_opens rfl

theorem moves_frees (b : Block) (a : List Block) : Moves cChange (b :: a) [.frees b] a := moves_closes rfl

theorem moves_gets_blockOf (b : Block) (d : Bytes) : Moves cChange [] ((blockOf b d).map .gets) (blockOf b d) := by
  unfold blockOf
  split
  · exact Composes.nil []
  · exact moves_gets b []

theorem moves_frees_blockOf (b : Block) (d : Bytes) : Moves cChange (blockOf b d) ((blockOf b d).map .frees) [] := by
  unfold blockOf
  split
  · exact Composes.nil []
  · exact moves_frees b []

theorem moves_drops_blockOf (b : Block) (d : Bytes) :
    Moves cChange (blockOf b d) ((blockOf b d).map .drops) (blockOf b d) := by
  unfold blockOf
  split
  · exact Composes.nil []
  · exact moves_keeps rfl

theorem info_of_ne {pc pc' : ProxyPc} (h : pc ≠ .done) (h' : pc' ≠ .done) : pc'.info keeps = pc.info keeps := by
  simp [ProxyPc.info, h, h']

/-- A step of `proxy` leaves the blocks of the others alone, -/
theorem moves_proxy {pc pc' : ProxyPc} (hpc : s.proxy = pc) (hpc' : t.proxy = pc') (hne : pc ≠ .done) (hne' : pc' ≠ .done)
    (h : Moves cChange pc.blocks cs pc'.blocks) (hc : t.c2s.blocks = s.c2s.blocks) (hs : t.s2c.blocks = s.s2c.blocks) :
    Moves cChange (s.blocks keeps) cs (t.blocks keeps) := by
  rw [State.blocks, State.blocks, hpc, hpc', info_of_ne hne hne', hc, hs]
  exact ((h.frame _).frame _).frame _

/-- and so does one of `dealc2s`, which may leave blocks behind, -/
theorem moves_c2s_left {pc pc' : C2sPc} {left : List Block} (hpc : s.c2s = pc) (hpc' : t.c2s = pc')
    (h : Moves cChange pc.blocks cs (pc'.blocks ++ left)) (hp : t.proxy = s.proxy) (hs : t.s2c = s.s2c) :
    Moves cChange (s.blocks keeps) cs (t.blocks keeps ++ left) := by
  rw [State.blocks, State.blocks, hpc, hpc', hp, hs]
  refine (h.frame (s.proxy.blocks ++ s.proxy.info keeps ++ s.s2c.blocks)).perm ?_ ?_
  · grind
  · grind

theorem moves_c2s {pc pc' : C2sPc} (hpc : s.c2s = pc) (hpc' : t.c2s = pc') (h : Moves cChange pc.blocks cs pc'.blocks)
    (hp : t.proxy = s.proxy) (hs : t.s2c = s.s2c) : Moves cChange (s.blocks keeps) cs (t.blocks keeps) := by
  have hleft : Moves cChange (s.blocks keeps) cs (t.blocks keeps ++ []) :=
    moves_c2s_left hpc hpc' (by rwa [List.append_nil]) hp hs
  rwa [List.append_nil] at hleft

/-- and one of `deals2c`. -/
theorem moves_s2c {pc pc' : S2cPc} (hpc : s.s2c = pc) (hpc' : t.s2c = pc') (h : Moves cChange pc.blocks cs pc'.blocks)
    (hp : t.proxy = s.proxy) (hc : t.c2s = s.c2s) : Moves cChange (s.blocks keeps) cs (t.blocks keeps) := by
  rw [State.blocks, State.blocks, hpc, hpc', hp, hc]
  exact (h.frame (s.proxy.blocks ++ s.proxy.info keeps ++ s.c2s.blocks)).perm List.perm_append_comm List.perm_append_comm

theorem blocks_ofFirst (dst : Option (Vector UInt8 16 × UInt16)) (q : Query) :
    (ProxyPc.ofFirst dst q).blocks = blockOf .firstPayload q.payload := by
  unfold ProxyPc.ofFirst
  split
  · next h =>
    have hne : q.payload ≠ [] := by
      intro he
      rw [he] at h
      simp [dnsHead] at h
    rw [ProxyPc.blocks, blockOf, if_neg hne]
  · rw [ProxyPc.blocks, Feed.payload_ofQuery]

theorem ofFirst_ne_done (dst : Option (Vector UInt8 16 × UInt16)) (q : Query) : ProxyPc.ofFirst dst q ≠ .done := by
  unfold ProxyPc.ofFirst
  split <;> simp

theorem moves_first (dst : Option (Vector UInt8 16 × UInt16)) (q : Query) :
    Moves cChange [.firstPacket] (.frees .firstPacket :: (blockOf .firstPayload q.payload).map .gets)
      (ProxyPc.ofFirst dst q).blocks := by
  rw [blocks_ofFirst]
  exact Composes.trans (moves_frees _ _) (moves_gets_blockOf _ _)

theorem moves_firstStarted (again : Bool) (d : Bytes) :
    Moves cChange (blockOf .firstPayload d) [] (ProxyPc.feed (.next again d)).blocks := by
  rw [ProxyPc.blocks, Feed.payload_next]
  exact Composes.nil _

/-- With a destination the payload is freed before it is handed on. -/
theorem moves_decoded (dst : Option (Vector UInt8 16 × UInt16)) (q : Query) :
    Moves cChange [.c2sPacket] (.frees .c2sPacket :: ((blockOf .c2sPayload q.payload).map .gets ++
      if dst = none then [] else (blockOf .c2sPayload q.payload).map .frees)) (C2sPc.feed (.ofQuery dst q)).blocks := by
  refine Composes.trans (moves_frees _ _) (Composes.trans (moves_gets_blockOf .c2sPayload q.payload) ?_)
  unfold Feed.ofQuery
  split
  · exact Composes.nil _
  · exact moves_frees_blockOf _ _

/-- The second send on `chanStart` is the last statement before the `free`. -/
theorem moves_started (again : Bool) (d : Bytes) :
    Moves cChange (blockOf .c2sPayload d) (if again then [] else (blockOf .c2sPayload d).map .frees)
      (C2sPc.feed (.next again d)).blocks := by
  cases again with
  | true => exact Composes.nil _
  | false => exact moves_frees_blockOf _ _

theorem moves_closed (hp : s.proxy = .close) (hpc : t.proxy = .done) (hc : t.c2s = s.c2s) (hs : t.s2c = s.s2c) :
    Moves cChange (s.blocks keeps) (if keeps then [.frees .info] else []) (t.blocks keeps) := by
  rw [State.blocks, State.blocks, hp, hpc, hc, hs]
  cases keeps with
  | true => exact (moves_frees .info (s.c2s.blocks ++ s.s2c.blocks))
  | false => exact Composes.nil _

/-- What a step gets and frees is what the session holds less or more behind it. -/
theorem moves_step (hl : Launched s) (hg : Guard s a) (ha : ∀ q, a ≠ .c2sDialErr q) :
    Moves cChange (s.blocks keeps) (a.cCalls M keeps s) ((Step M s a).blocks keeps) := by
  cases a with
  -- proxy
  | goDeals2r | goDealr2s | wgAdd3 | wgAdd1 => exact moves_proxy hg rfl nofun nofun (Composes.nil _) rfl rfl
  | sendEnd | firstReadErr | wgWait => exact moves_proxy hg.1 rfl nofun nofun (Composes.nil _) rfl rfl
  | goDeals2c =>
    have hidle : s.s2c = .idle := hl.s2c_idle.2 (by rw [(hg : s.proxy = _)]; decide)
    exact moves_proxy hg rfl nofun nofun (Composes.nil _) rfl (by rw [hidle]; rfl)
  | goDealc2s =>
    have hp : s.proxy = .goC2s := hg
    have hidle : s.c2s = .idle := hl.c2s_eq_idle (by rw [hp]; rfl) (by simp [hp])
    exact moves_proxy hg rfl nofun nofun (Composes.nil _) (by rw [hidle]; rfl) rfl
  | connClose => exact moves_closed hg rfl rfl rfl
  -- checkFirst
  | firstRead pkt => exact moves_proxy hg.1 rfl nofun nofun (moves_gets _ _) rfl rfl
  | firstDecode pkt => exact moves_proxy hg rfl nofun (ofFirst_ne_done _ _) (moves_first _ _) rfl rfl
  | lookup domain ip => exact moves_proxy hg rfl nofun nofun (moves_gets _ _) rfl rfl
  | dnsEncode q failed =>
    exact moves_proxy hg rfl nofun nofun (Composes.trans (moves_frees _ _) (moves_gets _ _)) rfl rfl
  | dnsHeader body failed => exact moves_proxy hg rfl nofun nofun (Composes.nil _) rfl rfl
  | dnsHeaderErr body failed k | dnsBodyErr body failed k =>
    exact moves_proxy hg rfl nofun nofun (Composes.trans (moves_frees _ _) (moves_frees _ _)) rfl rfl
  | dnsBody body failed =>
    have hfree : Moves cChange [.answerPacket, .firstPayload] [.frees .answerPacket, .frees .firstPayload] [] :=
      Composes.trans (moves_frees _ _) (moves_frees _ _)
    cases failed with
    | true => exact moves_proxy hg rfl nofun nofun hfree rfl rfl
    | false => exact moves_proxy hg rfl nofun nofun hfree rfl rfl
  | firstDial q => exact moves_proxy hg rfl nofun nofun (Composes.nil _) rfl rfl
  | firstDialErr q => exact moves_proxy hg rfl nofun nofun (moves_frees_blockOf _ _) rfl rfl
  | firstStartS2r again d | firstStartR2s again d =>
    exact moves_proxy hg.1 rfl nofun nofun (moves_firstStarted _ _) rfl rfl
  | firstPush d => exact moves_proxy hg.1 rfl nofun nofun (moves_frees_blockOf _ _) rfl rfl
  -- dealc2s
  | c2sRead pkt => exact moves_c2s hg.1 rfl (moves_gets _ _) rfl rfl
  | c2sReadErr | c2sExit | c2sPush => exact moves_c2s hg.1 rfl (Composes.nil _) rfl rfl
  | c2sDone => exact moves_c2s hg rfl (Composes.nil _) rfl rfl
  | c2sDecode pkt => exact moves_c2s hg rfl (moves_decoded _ _) rfl rfl
  | c2sDial q => exact moves_c2s hg rfl (Composes.nil _) rfl rfl
  | c2sDialErr q => exact absurd rfl (ha q)
  | c2sStartS2r again d | c2sStartR2s again d => exact moves_c2s hg.1 rfl (moves_started _ _) rfl rfl
  -- deals2c
  | s2cTake d => exact moves_s2c hg.1 rfl (moves_gets _ _) rfl rfl
  | s2cEncode d => exact moves_s2c hg rfl (Composes.trans (moves_frees _ _) (moves_gets _ _)) rfl rfl
  | s2cHeader body | s2cDone => exact moves_s2c hg rfl (Composes.nil _) rfl rfl
  | s2cHeaderErr body k | s2cBody body | s2cBodyErr body k => exact moves_s2c hg rfl (moves_frees _ _) rfl rfl
  | s2cEnd | s2cExit => exact moves_s2c hg.1 rfl (Composes.nil _) rfl rfl
  -- `deals2r`, `dealr2s`, its reader and the peers have no C memory
  | _ => exact Composes.nil _

/-- A payload whose destination cannot be dialled. -/
theorem moves_dialErr {q : Query} (hg : Guard s (.c2sDialErr q)) :
    Moves cChange (s.blocks keeps) ((Act.c2sDialErr q).cCalls M keeps s)
      ((Step M s (.c2sDialErr q)).blocks keeps ++ blockOf .c2sPayload q.payload) :=
  moves_c2s_left hg rfl (moves_drops_blockOf _ _) rfl rfl

/-! ## What is dropped -/

@[simp]
theorem dropped_nil : dropped [] = [] := rfl

@[simp]
theorem dropped_append (cs cs' : List CCall) : dropped (cs ++ cs') = dropped cs ++ dropped cs' := List.filterMap_append

@[simp]
theorem dropped_gets (b : Block) (cs : List CCall) : dropped (.gets b :: cs) = dropped cs := rfl

@[simp]
theorem dropped_frees (b : Block) (cs : List CCall) : dropped (.frees b :: cs) = dropped cs := rfl

@[simp]
theorem dropped_map_gets (bs : List Block) : dropped (bs.map .gets) = [] := by simp [dropped, List.filterMap_map]

@[simp]
theorem dropped_map_frees (bs : List Block) : dropped (bs.map .frees) = [] := by simp [dropped, List.filterMap_map]

theorem dropped_map_drops (bs : List Block) : dropped (bs.map .drops) = bs := by
  simp [dropped, List.filterMap_map]

theorem dropped_cCalls (ha : ∀ q, a ≠ .c2sDialErr q) : dropped (a.cCalls M keeps s) = [] := by
  cases a with
  | c2sDialErr q => exact absurd rfl (ha q)
  | connClose => cases keeps <;> rfl
  | c2sStartS2r again d | c2sStartR2s again d => cases again <;> simp [Act.cCalls]
  | c2sDecode pkt =>
    simp only [Act.cCalls, dropped_frees, dropped_append, dropped_map_gets, List.nil_append]
    split <;> simp
  | _ => simp [Act.cCalls]

/-- `dealc2s` does not come back. -/
theorem over_step (hl : Launched s) (hg : Guard s a) (h : s.c2s.over = true) : (Step M s a).c2s.over = true := by
  cases a
  case goDealc2s =>
    have hp : s.proxy = .goC2s := hg
    rw [hl.c2s_eq_idle (by rw [hp]; rfl) (by simp [hp])] at h
    cases h
  -- the steps of the loop
  case c2sRead | c2sReadErr | c2sStartS2r | c2sStartR2s | c2sPush =>
    rw [hg.1] at h
    cases h
  case c2sDecode | c2sDial | c2sDialErr =>
    rw [show s.c2s = _ from hg] at h
    cases h
  -- and those behind it
  case c2sExit | c2sDone => rfl
  all_goals exact h

/-- Every step of `proxy` is from somewhere else. -/
theorem done_step (hg : Guard s a) (h : s.proxy = .done) : (Step M s a).proxy = .done := by
  cases a
  case firstRead | firstReadErr | firstStartS2r | firstStartR2s | firstPush | sendEnd | wgWait =>
    cases h.symm.trans hg.1
  case goDeals2r | goDealr2s | goDeals2c | wgAdd3 | firstDecode | lookup | dnsEncode | dnsHeader | dnsHeaderErr | dnsBody
      | dnsBodyErr | firstDial | firstDialErr | goDealc2s | wgAdd1 | connClose =>
    cases h.symm.trans hg
  all_goals exact h

end

/-! ## Whole runs -/

/-- What was got and not freed is what the state holds and what was dropped. -/
structure CKept (m : CModule) (h : Handling) (cs : List CCall) : Prop where
  moves : Moves cChange [] cs (h.blocks m.keeps ++ dropped cs)
  dropped : h.dropped m (Go.dropped cs)

section
variable {M : Codec} {m : CModule} {keeps accepted : Bool} {h h' : Handling} {s : State} {a : Act} {cs us : List CCall}
  {ds : List Block}

theorem dropped_none (hcli : h.cli = none) : h.dropped m ds ↔ h.pc.dropped m ds := by rw [Handling.dropped, hcli]

theorem dropped_some (hcli : h.cli = some s) :
    h.dropped m ds ↔ ds = m.authLeft false ∨ ds = m.authLeft false ++ [.c2sPayload] ∧ s.c2s.over = true := by
  rw [Handling.dropped, hcli]

theorem cKept_session (hk : CKept m h cs) (hs : h.cli = some s) (hl : Launched s) (hg : Guard s a) :
    CKept m (HandleStep M h (.session a)) (cs ++ a.cCalls M m.keeps s) := by
  have hbefore : h.blocks m.keeps = s.blocks m.keeps ++ h.pc.blocks m.keeps := by rw [Handling.blocks, hs]; rfl
  have hcli : (HandleStep M h (.session a)).cli = some (Step M s a) := by rw [HandleStep, hs]; rfl
  have hbehind : (HandleStep M h (.session a)).blocks m.keeps = (Step M s a).blocks m.keeps ++ h.pc.blocks m.keeps := by
    rw [Handling.blocks, hcli]
    rfl
  have hmoves := hk.moves
  have hdropped := (dropped_some hs).1 hk.dropped
  rw [hbefore, List.append_assoc] at hmoves
  by_cases ha : ∀ q, a ≠ .c2sDialErr q
  · have hnone : dropped (a.cCalls M m.keeps s) = [] := dropped_cCalls ha
    refine ⟨?_, (dropped_some hcli).2 ?_⟩
    · rw [dropped_append, hnone, List.append_nil, hbehind, List.append_assoc]
      exact hmoves.trans ((moves_step hl hg ha).frame _)
    · rw [dropped_append, hnone, List.append_nil]
      exact hdropped.imp_right fun ho => ⟨ho.1, over_step hl hg ho.2⟩
  · obtain ⟨q, rfl⟩ : ∃ q, a = .c2sDialErr q := by simpa using ha
    have hauth : dropped cs = m.authLeft false := by
      refine hdropped.resolve_right fun ho => ?_
      have hover := ho.2
      rw [(hg : s.c2s = _)] at hover
      cases hover
    have hnew : dropped ((Act.c2sDialErr q).cCalls M m.keeps s) = blockOf .c2sPayload q.payload := dropped_map_drops _
    refine ⟨?_, (dropped_some hcli).2 ?_⟩
    · rw [dropped_append, hnew, hbehind]
      refine hmoves.trans (((moves_dialErr hg).frame _).perm (.refl _) ?_)
      grind
    · rw [dropped_append, hauth, hnew, blockOf]
      split
      · exact .inl (List.append_nil _)
      · exact .inr ⟨rfl, rfl⟩

/-- A step of `handle` outside the session, -/
theorem cKept_pc {pc pc' : HandlePc} (hk : CKept m h cs) (hpc : h.pc = pc) (hpc' : h'.pc = pc') (hcli : h.cli = none)
    (hcli' : h'.cli = none) (hm : Moves cChange (pc.blocks m.keeps) us (pc'.blocks m.keeps ++ dropped us))
    (hd : pc.dropped m (dropped cs) → pc'.dropped m (dropped cs ++ dropped us)) : CKept m h' (cs ++ us) := by
  have hmoves := hk.moves
  have hbefore : h.blocks m.keeps = pc.blocks m.keeps := by rw [Handling.blocks, hcli, hpc]; rfl
  have hbehind : h'.blocks m.keeps = pc'.blocks m.keeps := by rw [Handling.blocks, hcli', hpc']; rfl
  rw [hbefore] at hmoves
  refine ⟨?_, (dropped_none hcli').2 ?_⟩
  · rw [dropped_append, hbehind]
    refine hmoves.trans ((hm.frame (dropped cs)).perm (.refl _) ?_)
    grind
  · have hold := (dropped_none hcli).1 hk.dropped
    rw [hpc] at hold
    rw [dropped_append, hpc']
    exact hd hold

/-- one that drops nothing, -/
theorem cKept_quiet {pc pc' : HandlePc} (hk : CKept m h cs) (hpc : h.pc = pc) (hpc' : h'.pc = pc') (hcli : h.cli = none)
    (hcli' : h'.cli = none) (hm : Moves cChange (pc.blocks m.keeps) us (pc'.blocks m.keeps)) (hus : dropped us = [])
    (hd : pc.dropped m (dropped cs) → pc'.dropped m (dropped cs)) : CKept m h' (cs ++ us) := by
  refine cKept_pc hk hpc hpc' hcli hcli' ?_ ?_
  · rwa [hus, List.append_nil]
  · rwa [hus, List.append_nil]

/-- the one that enters it, -/
theorem cKept_enterProxy (hk : CKept m h cs) (hpc : h.pc = .verdict false) (hcli : h.cli = none) :
    CKept m (HandleStep M h .enterProxy) cs := by
  have hsame : (HandleStep M h .enterProxy).blocks m.keeps = h.blocks m.keeps := by
    rw [Handling.blocks, Handling.blocks, hpc, hcli]
    cases m <;> rfl
  have hold := (dropped_none hcli).1 hk.dropped
  rw [hpc] at hold
  exact ⟨by rw [hsame]; exact hk.moves, (dropped_some rfl).2 (.inl hold)⟩

/-- and the one behind it. -/
theorem cKept_leaveProxy (hk : CKept m h cs) (hpc : h.pc = .proxy) (hs : h.cli = some s) :
    CKept m (HandleStep M h .leaveProxy) (cs ++ [.frees .passphrase]) := by
  have hcli : (HandleStep M h .leaveProxy).cli = some s := hs
  have hmoves := hk.moves
  rw [Handling.blocks, hs, hpc] at hmoves
  refine ⟨?_, (dropped_some hcli).2 ?_⟩
  · rw [dropped_append, Handling.blocks, hcli]
    refine hmoves.trans (((moves_frees .passphrase []).frame (s.blocks m.keeps ++ dropped cs)).perm ?_ ?_)
    · simp only [HandlePc.blocks, Option.map_some, Option.getD_some]
      grind
    · simp only [HandleStep, HandlePc.blocks, Option.map_some, Option.getD_some, dropped_frees, dropped_nil]
      grind
  · rw [dropped_append, dropped_frees, dropped_nil, List.append_nil]
    exact (dropped_some hs).1 hk.dropped

theorem moves_replied (m : CModule) (isClose : Bool) (packet reply : Bytes) :
    Moves cChange (HandlePc.blocks m.keeps (.makeAuthReply packet)) (m.authCalls isClose)
      (HandlePc.blocks m.keeps (.replyHeader reply isClose) ++ dropped (m.authCalls isClose)) := by
  cases m with
  | simpleProxy => cases isClose <;> exact moves_of_openAfter rfl
  | seProxy =>
    cases isClose with
    | true =>
      refine (moves_of_openAfter (b := [.authReply, .request, .passphrase]) rfl).perm (.refl _) ?_
      show List.Perm [Block.authReply, .request, .passphrase] [.authReply, .passphrase, .request]
      decide
    | false =>
      refine (moves_of_openAfter (b := [.info, .authReply, .tmpenc, .request, .passphrase]) rfl).perm (.refl _) ?_
      show List.Perm [Block.info, .authReply, .tmpenc, .request, .passphrase] [.authReply, .info, .passphrase, .request, .tmpenc]
      decide

theorem cKept_of_reach {x : Handling × List CCall} (hr : (cHeap M m accepted).Reachable x) : CKept m x.1 x.2 := by
  have hinit : CKept m (handling M accepted).init [] := ⟨Composes.nil [], (dropped_none rfl).2 rfl⟩
  refine hr.induct (I := fun x => CKept m x.1 x.2) hinit ?_
  rintro ⟨h, cs⟩ a hreach hk he -
  have hh : (handling M accepted).Reachable h := Lts.System.reachable_of_recording hreach
  have hnone : ∀ pc : HandlePc, h.pc = pc → pc.authenticating = true → h.cli = none := by
    rintro _ rfl ha
    exact cli_none hh ha
  cases a with
  | session a =>
    obtain ⟨s, hs, he⟩ := he
    have hcli : h.cli = some s := hs
    have hl := (control_of_reach (cli_reachable hh s hs)).launched
    have hstep := cKept_session (M := M) hk hcli hl he.2
    show CKept m _ (cs ++ (h.cli.map fun s => a.cCalls M m.keeps s).getD [])
    rw [hcli]
    exact hstep
  | enterProxy =>
    show CKept m (HandleStep M h .enterProxy) (cs ++ [])
    rw [List.append_nil]
    exact cKept_enterProxy hk he (hnone _ he rfl)
  | leaveProxy =>
    obtain ⟨hpc, s, hs, -⟩ := he
    exact cKept_leaveProxy (M := M) hk hpc hs
  | makeAuthReply packet reply isClose =>
    have hcli := hnone _ he rfl
    refine cKept_pc hk he rfl hcli hcli (moves_replied m isClose packet reply) fun hd => ?_
    rw [(hd : dropped cs = [])]
    rfl
  | remoteAddr ip =>
    have hcli := hnone _ he rfl
    cases ip with
    | none => exact cKept_quiet hk he rfl hcli hcli (moves_frees _ _) rfl .inl
    | some ip => exact cKept_quiet hk he rfl hcli hcli (Composes.nil _) rfl id
  | returnNil => exact cKept_quiet hk he rfl (hnone _ he rfl) (hnone _ he rfl) (Composes.nil _) rfl .inl
  | start => exact cKept_quiet hk he rfl (hnone _ he rfl) (hnone _ he rfl) (moves_gets _ _) rfl id
  | authRead packet => exact cKept_quiet hk he rfl (hnone _ he rfl) (hnone _ he rfl) (moves_gets _ _) rfl id
  | authReadErr => exact cKept_quiet hk he rfl (hnone _ he rfl) (hnone _ he rfl) (moves_frees _ _) rfl .inl
  | replyHeader reply isClose => exact cKept_quiet hk he rfl (hnone _ he rfl) (hnone _ he rfl) (Composes.nil _) rfl id
  | replyHeaderErr reply isClose | replyBody reply isClose =>
    exact cKept_quiet hk he rfl (hnone _ he rfl) (hnone _ he rfl) (moves_frees _ _) rfl id
  | refuse =>
    refine cKept_quiet hk he rfl (hnone _ he rfl) (hnone _ he rfl) ?_ rfl .inr
    cases m <;> exact moves_frees _ _

/-- A `handle` that has returned has seen the end of its session. -/
theorem proxy_done_of_returned (hr : (handling M accepted).Reachable h) : h.pc = .returned → ∀ s ∈ h.cli, s.proxy = .done := by
  refine hr.induct (I := fun h => h.pc = .returned → ∀ s ∈ h.cli, s.proxy = .done) (by simp [handling]) ?_
  intro h a hreach ih he _ hpc s hs
  have hnone : h.pc.authenticating = true → s ∉ h.cli := by
    intro ha hs
    rw [cli_none hreach ha] at hs
    cases hs
  cases a with
  | session a =>
    obtain ⟨s₀, hs₀, he⟩ := he
    obtain ⟨s₁, hs₁, rfl⟩ := Option.map_eq_some_iff.1 hs
    cases hs₀.symm.trans hs₁
    exact done_step he.2 (ih hpc s₀ hs₀)
  | leaveProxy =>
    obtain ⟨-, s₀, hs₀, hd⟩ := he
    cases hs.symm.trans hs₀
    exact hd
  | remoteAddr ip =>
    have hauth : h.pc = .remoteAddr := he
    cases ip <;> exact absurd hs (hnone (by rw [hauth]; rfl))
  | enterProxy => cases hpc
  | _ => exact absurd hs (hnone (by rw [show h.pc = _ from he]; rfl))

theorem blocks_of_returned (hr : (handling M accepted).Reachable h) (hpc : h.pc = .returned) : h.blocks keeps = [] := by
  cases hcli : h.cli with
  | none =>
    rw [Handling.blocks, hpc, hcli]
    rfl
  | some s =>
    have hd : s.proxy = .done := proxy_done_of_returned hr hpc s hcli
    obtain ⟨hc, -, -, hs⟩ := closing_of_reach (cli_reachable hr s hcli) (.inr hd)
    have hc2s : s.c2s.blocks = [] := by rcases hc with h | h <;> rw [h] <;> rfl
    rw [Handling.blocks, hpc, hcli, Option.map_some, Option.getD_some, State.blocks, hd, hc2s, hs]
    simp [ProxyPc.blocks, ProxyPc.info, S2cPc.blocks, HandlePc.blocks]

/-- In every state of every run of `handle`, with either module, whatever fails and however the goroutines are interleaved: no
block has been freed that was not allocated, and the blocks left are those that somebody still points to and those that were
dropped. These are what the authentication leaves, and at most one more, the payload of a packet to `dealc2s` whose
destination could not be dialled. Behind the return of `handle` they are all there is. -/
theorem handle_c_heap {h : Handling} {cs : List CCall} (hr : (cHeap M m accepted).Reachable (h, cs)) :
    ∃ held, openAfter cChange [] cs = some held ∧ held.Perm (h.blocks m.keeps ++ dropped cs) ∧
      h.dropped m (dropped cs) ∧ (h.pc = .returned → held.Perm (dropped cs)) := by
  have hk := cKept_of_reach hr
  obtain ⟨held, ho, hp⟩ := hk.moves.openAfter
  refine ⟨held, ho, hp, hk.dropped, fun hpc => ?_⟩
  rwa [blocks_of_returned (Lts.System.reachable_of_recording hr) hpc, List.nil_append] at hp

end

/-- The answer to its question. -/
def anyAddress : Query := dnsAnswer (some (Vector.replicate 16 0))

/-- A client that asks for a name, and whose first data packet then goes where nobody listens. -/
def lostPayload : List HandleAct :=
  authClient false ++ [.enterProxy] ++ ([.goDeals2r, .goDealr2s, .goDeals2c, .wgAdd3, .cliSend (some (dnsHead ++ [97])),
    .firstRead (dnsHead ++ [97]), .firstDecode (dnsHead ++ [97]), .lookup [97] (some (Vector.replicate 16 0)),
    .dnsEncode anyAddress false, .dnsHeader anyAddress.payload false, .dnsBody anyAddress.payload false, .goDealc2s, .wgAdd1,
    .cliSend (some [7]), .c2sRead [7], .c2sDecode [7], .c2sDialErr ⟨Vector.replicate 16 0, 0, [7]⟩, .c2sExit, .c2sDone,
    .s2rEnd0, .s2rExit, .s2rDone, .r2sEnd0, .r2sExit, .r2sDone, .s2cEnd, .s2cExit, .s2cDone, .wgWait, .connClose] :
      List Act).map .session ++ [.leaveProxy]

/-- It costs the server one block, and two for `se_proxy`. -/
theorem handle_c_heap_lost_payload : ∃ h cs held, (cHeap plainCodec .seProxy true).Reachable (h, cs) ∧ h.pc = .returned ∧
    openAfter cChange [] cs = some held ∧ held.Perm [.request, .tmpenc, .c2sPayload] := by
  obtain ⟨h, cs, hr, hpc, hd⟩ : ∃ h cs, (cHeap plainCodec .seProxy true).Reachable (h, cs) ∧ h.pc = .returned ∧
      dropped cs = [.request, .tmpenc, .c2sPayload] :=
    ⟨_, _, Lts.System.replay_reach lostPayload .init rfl, rfl, by decide⟩
  obtain ⟨held, ho, -, -, hheld⟩ := handle_c_heap hr
  exact ⟨h, cs, held, hr, hpc, ho, hd ▸ hheld hpc⟩

end SnakeSocks.Go
