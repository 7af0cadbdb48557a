import SnakeSocks.Module.SimpleProxy
import SnakeSocks.Native.Relay

/-!
# The native relay loses nothing

Each direction is a `Pipe`: chunks go in on one side and come out on the other, in order. A state of the two loops
refines two pipes (`Refines`) as long as the module's decoding undoes its encoding; each branch of a loop is one `push`
or one `pop` (`clientApp_refines` and the three after it), and `relay_integrity` reads the equations off. The client
takes a packet of length 0 for the end of the connection, so a module must not encode a chunk as the empty string
(`empty_packet_lost`).
-/

namespace SnakeSocks.Tunnel

open ByteLib CMem Frames
open Sio (RecvEv)

/-! ## Pipes -/

/-- A direction of the relay: chunks fed in, some still queued, the rest come out in order. -/
structure Pipe where
  fed : Bytes
  queue : List Bytes
  out : Bytes
  lossless : out ++ queue.flatten = fed
  sized : ∀ c ∈ queue, c ≠ [] ∧ c.length ≤ 1024

namespace Pipe

def empty : Pipe := ⟨[], [], [], rfl, by simp⟩

def push (p : Pipe) (c : Bytes) (hc : c ≠ [] ∧ c.length ≤ 1024) : Pipe where
  fed := p.fed ++ c
  queue := p.queue ++ [c]
  out := p.out
  lossless := by
    rw [List.flatten_append, ← List.append_assoc, p.lossless]
    simp
  sized := by
    intro d hd
    rcases List.mem_append.1 hd with h | h
    · exact p.sized d h
    · exact List.mem_singleton.1 h ▸ hc

/-- The first chunk of the queue comes out. -/
def pop (p : Pipe) (c : Bytes) (rest : List Bytes) (h : p.queue = c :: rest) : Pipe where
  fed := p.fed
  queue := rest
  out := p.out ++ c
  lossless := by
    have hl := p.lossless
    rw [h] at hl
    simpa using hl
  sized := by
    intro d hd
    exact p.sized d (by rw [h]; exact List.mem_cons_of_mem _ hd)

end Pipe

/-- The packet that carries a chunk to the server. -/
def Setup.upPacket (P : Setup) (c : Bytes) : Bytes :=
  (clientEncode P.module.clientEncode (.ofBlock c) P.template).bytes

/-- The packet that carries a chunk to the client. -/
def Setup.downPacket (P : Setup) (c : Bytes) : Bytes := (P.module.serverEncode (chunkQuery P.bindPort c)).bytes

/-- A state of the two loops is two pipes: the tunnel holds one frame for every queued chunk. -/
structure Refines (P : Setup) (s : State) (up down : Pipe) : Prop where
  appRead : s.appRead = up.fed
  c2s : s.c2s = stream 4 (up.queue.map P.upPacket)
  dstOut : s.dstOut = up.out
  dstRead : s.dstRead = down.fed
  s2c : s.s2c = stream 4 (down.queue.map P.downPacket)
  appOut : s.appOut = down.out
  routed : ∀ w ∈ s.dstLog, w.1 = destOf P.template
  connects : s.connects = s.nextHopConn.toList
  nextHop : ∀ d ∈ s.nextHopConn, d = destOf P.template

/-- Decoding undoes encoding, for the payloads a relay carries. -/
structure Module.Undoes (M : Module) : Prop where
  client : ∀ q : ClientQuery, q.payload.length.toNat ≤ 1024 → (M.serverDecode (.ofBlock (M.clientEncode q).bytes)).Same q
  server : ∀ q : ClientQuery, q.payload.length.toNat ≤ 1024 → (M.clientDecode (.ofBlock (M.serverEncode q).bytes)).Same q

/-- The server's packet for a chunk is never the empty string. -/
def Module.Speaks (M : Module) (bindPort : UInt16) : Prop :=
  ∀ c : Bytes, c ≠ [] → c.length ≤ 1024 → (M.serverEncode (chunkQuery bindPort c)).length ≠ 0

/-! ## Branches and receives -/

section
variable {σ : Type} {R : Reader σ} {junk : Junk} {fuel : Nat} {encode : ClientQuery → BinarySafeString}

theorem lengthAndPacket_eq (dat : BinarySafeString) : lengthAndPacket dat = frame 4 dat.bytes := by
  rw [lengthAndPacket, frame, BinarySafeString.length_bytes]

theorem length_readHalves {s s' : σ} {bs : Bytes} (h : readHalves R s = .ok (bs, s')) : bs.length ≤ 1024 := by
  unfold readHalves at h
  obtain ⟨⟨b1, s1⟩, h1, h⟩ := bind_eq_ok.1 h
  have hle := R.le h1
  simp only at h
  split at h
  · cases h
    omega
  · obtain ⟨⟨b2, s2⟩, h2, h⟩ := bind_eq_ok.1 h
    have hle' := R.le h2
    cases h
    simp only [List.length_append]
    omega

theorem orDie_eq_ok {α : Type} {what : String} {x : Except Halt α} {a : α} (h : orDie what x = .ok a) : x = .ok a := by
  match x, h with
  | .ok _, h => exact h
  | .error .failed, h => cases h
  | .error .blocked, h => cases h
  | .error (.fault _), h => cases h
  | .error (.exn _), h => cases h
  | .error .outOfFuel, h => cases h

/-- What the application's branch can do. -/
theorem appReadable_ok {template : ClientQuery} {s s' : σ} {branch : Branch}
    (h : appReadable R junk fuel encode template s = .ok (branch, s')) :
    branch = .close ∨ ∃ taken, (taken ≠ [] ∧ taken.length ≤ 1024) ∧
      branch = .send taken (frame 4 (clientEncode encode (.ofBlock taken) template).bytes) := by
  unfold appReadable at h
  obtain ⟨⟨bs, s1⟩, h1, h⟩ := bind_eq_ok.1 h
  have hlen := orDie_eq_ok h1
  rw [readallStr_eq] at hlen
  simp only at h
  split at h
  · cases h
    exact .inl rfl
  · next hz =>
    cases h
    refine .inr ⟨bs, ⟨?_, length_readHalves hlen⟩, by rw [lengthAndPacket_eq]⟩
    intro h0
    simp [h0] at hz

/-- What the destination's branch can do. -/
theorem nextHopReadable_ok {bindPort : UInt16} {s s' : σ} {branch : Branch}
    (h : nextHopReadable R junk fuel encode bindPort s = .ok (branch, s')) :
    branch = .close ∨ ∃ taken, (taken ≠ [] ∧ taken.length ≤ 1024) ∧
      branch = .send taken (frame 4 (encode (chunkQuery bindPort taken)).bytes) := by
  unfold nextHopReadable at h
  obtain ⟨⟨bs, s1⟩, h1, h⟩ := bind_eq_ok.1 h
  have hlen := orDie_eq_ok h1
  rw [readallStr_eq] at hlen
  simp only at h
  split at h
  · cases h
    exact .inl rfl
  · next hz =>
    obtain ⟨sent, hsent, h⟩ := bind_eq_ok.1 h
    cases h
    rw [sendLengthAndPacket] at hsent
    split at hsent
    · cases hsent
    · cases hsent
      refine .inr ⟨bs, ⟨?_, length_readHalves hlen⟩, by rw [lengthAndPacket_eq]⟩
      intro h0
      simp [h0] at hz

end

theorem length_bytes_lt (dat : BinarySafeString) : dat.bytes.length < 256 ^ 4 := by
  rw [BinarySafeString.length_bytes]
  exact dat.length.toNat_lt

theorem Setup.length_upPacket_lt (P : Setup) (c : Bytes) : (P.upPacket c).length < 256 ^ 4 := length_bytes_lt _

theorem Setup.length_downPacket_lt (P : Setup) (c : Bytes) : (P.downPacket c).length < 256 ^ 4 := length_bytes_lt _

/-- A header is received as the length it was sent for. -/
theorem recvn_header {body : Bytes} (h : body.length < 256 ^ 4) (rest : Bytes) :
    ∃ hdr, recvn 4 (frame 4 body ++ rest) = .ok (hdr, body ++ rest) ∧ beNat hdr = body.length := by
  refine ⟨beBytes 4 body.length, ?_, beNat_beBytes 4 _ h⟩
  have hle : 4 ≤ (frame 4 body ++ rest).length := by
    simp only [List.length_append, length_frame]
    omega
  rw [recvn, if_pos hle, take_frame, drop_frame]

theorem recvn_body (body rest : Bytes) : recvn body.length (body ++ rest) = .ok (body, rest) := by
  rw [recvn, if_pos (by simp), List.take_left, List.drop_left]

theorem recvLengthAndPacket_frame {body rest : Bytes} (h : body.length < 256 ^ 4) {r : Bytes × Bytes}
    (hr : recvLengthAndPacket (frame 4 body ++ rest) = .ok r) : r = (body, rest) := by
  obtain ⟨hdr, hrecv, hlen⟩ := recvn_header h rest
  rw [recvLengthAndPacket, hrecv, ok_bind] at hr
  simp only [hlen] at hr
  split at hr
  · cases hr
  · rw [recvn_body] at hr
    exact (Except.ok.inj hr).symm

/-- Nothing is received from an empty tunnel. -/
theorem recvn_nil (n : Nat) : recvn (n + 1) [] = .error .blocked := by
  simp [recvn]

/-! ## The loops refine the pipes -/

section
variable {P : Setup} {s t : State} {up down : Pipe}

/-- A chunk as the payload of a query. -/
theorem ofBlock_chunk {c : Bytes} (hc : c ≠ [] ∧ c.length ≤ 1024) :
    (BinarySafeString.ofBlock c).bytes = c ∧ (BinarySafeString.ofBlock c).length.toNat = c.length ∧
      (BinarySafeString.ofBlock c).length ≠ 0 := by
  have hlt : c.length < 2 ^ 32 := by omega
  refine ⟨BinarySafeString.ofBlock_bytes hlt, BinarySafeString.ofBlock_length hlt, ?_⟩
  intro h0
  have hlen := BinarySafeString.ofBlock_length hlt
  rw [h0] at hlen
  exact hc.1 (List.length_eq_zero_iff.1 hlen.symm)

/-- The server gets back the template's address and the chunk. -/
theorem decode_up (hM : P.module.Undoes) {c : Bytes} (hc : c ≠ [] ∧ c.length ≤ 1024) :
    (P.module.serverDecode (.ofBlock (P.upPacket c))).destinationIp = P.template.destinationIp ∧
    (P.module.serverDecode (.ofBlock (P.upPacket c))).destinationPort = P.template.destinationPort ∧
    (P.module.serverDecode (.ofBlock (P.upPacket c))).payload.bytes = c := by
  obtain ⟨hb, hl, h0⟩ := ofBlock_chunk hc
  have hq : P.upPacket c = (P.module.clientEncode { P.template with payload := .ofBlock c }).bytes := by
    rw [Setup.upPacket, clientEncode, if_pos h0]
  obtain ⟨hip, hport, -, hpay⟩ := hM.client { P.template with payload := .ofBlock c } (by simp only [hl]; exact hc.2)
  rw [hq]
  exact ⟨hip, hport, hpay.trans hb⟩

/-- The client gets the chunk back. -/
theorem decode_down (hM : P.module.Undoes) {c : Bytes} (hc : c ≠ [] ∧ c.length ≤ 1024) :
    (P.module.clientDecode (.ofBlock (P.downPacket c))).payload.bytes = c := by
  obtain ⟨hb, hl, -⟩ := ofBlock_chunk hc
  obtain ⟨-, -, -, hpay⟩ := hM.server (chunkQuery P.bindPort c) (by simp only [chunkQuery, hl]; exact hc.2)
  exact hpay.trans hb

theorem clientApp_refines (h : Refines P s up down) (hs : clientApp P s = .ok t) : ∃ up', Refines P t up' down := by
  unfold clientApp at hs
  obtain ⟨⟨branch, appIn⟩, h1, hs⟩ := bind_eq_ok.1 hs
  rcases appReadable_ok h1 with rfl | ⟨taken, hc, rfl⟩
  · cases hs
    exact ⟨up, { h with }⟩
  · cases hs
    refine ⟨up.push taken hc, { h with appRead := ?_, c2s := ?_ }⟩
    · simp only [Pipe.push, h.appRead]
    · simp only [Pipe.push, h.c2s, List.map_append, stream_append, List.map_singleton, stream_singleton, Setup.upPacket]

theorem clientHop_refines (hM : P.module.Undoes) (hsp : P.module.Speaks P.bindPort) (h : Refines P s up down)
    (hs : clientHop P s = .ok t) : ∃ down', Refines P t up down' := by
  unfold clientHop at hs
  cases hq : down.queue with
  | nil =>
    rw [h.s2c, hq, List.map_nil, stream_nil, recvn_nil] at hs
    cases hs
  | cons c rest =>
    have hc := down.sized c (by simp [hq])
    obtain ⟨hdr, hrecv, hlen⟩ := recvn_header (P.length_downPacket_lt c) (stream 4 (rest.map P.downPacket))
    have hne : (P.downPacket c).length ≠ 0 := by
      intro h0
      rw [Setup.downPacket, BinarySafeString.length_bytes] at h0
      exact hsp c hc.1 hc.2 (UInt32.toNat_inj.1 h0)
    rw [h.s2c, hq, List.map_cons, stream_cons, hrecv, ok_bind] at hs
    simp only [hlen, hne, if_false, recvn_body, ok_bind, decode_down hM hc] at hs
    cases hs
    refine ⟨down.pop c rest hq, { h with s2c := rfl, appOut := ?_ }⟩
    simp only [Pipe.pop, h.appOut]

/-- The server writes the next chunk to the template's destination. -/
theorem log_chunk (h : Refines P s up down) {c : Bytes} {rest : List Bytes} (hq : up.queue = c :: rest) :
    ((s.dstLog ++ [(destOf P.template, c)]).map Prod.snd).flatten = (up.pop c rest hq).out ∧
      ∀ w ∈ s.dstLog ++ [(destOf P.template, c)], w.1 = destOf P.template := by
  constructor
  · have hout := h.dstOut
    simp only [State.dstOut] at hout
    simp [hout, Pipe.pop]
  · intro w hw
    rcases List.mem_append.1 hw with hw | hw
    · exact h.routed w hw
    · rw [List.mem_singleton.1 hw]

theorem serverConn_refines (hM : P.module.Undoes) (hip : isDnsQuery P.template = false) (h : Refines P s up down)
    (hs : serverConn P s = .ok t) : ∃ up', Refines P t up' down := by
  unfold serverConn at hs
  obtain ⟨⟨data, c2s⟩, hrecv, hs⟩ := bind_eq_ok.1 hs
  cases hq : up.queue with
  | nil =>
    rw [h.c2s, hq, List.map_nil, stream_nil, recvLengthAndPacket, recvn_nil] at hrecv
    cases hrecv
  | cons c rest =>
    have hc := up.sized c (by simp [hq])
    rw [h.c2s, hq, List.map_cons, stream_cons] at hrecv
    obtain ⟨rfl, rfl⟩ := Prod.mk.inj (recvLengthAndPacket_frame (P.length_upPacket_lt c) hrecv)
    obtain ⟨hdip, hdport, hpay⟩ := decode_up hM hc
    have hdns : isDnsQuery (P.module.serverDecode (.ofBlock (P.upPacket c))) = false := by
      rw [isDnsQuery, hdip]
      exact hip
    have hdest : destOf (P.module.serverDecode (.ofBlock (P.upPacket c))) = destOf P.template := by
      rw [destOf, destOf, hdip, hdport]
    simp only [hdns, hpay, hdest] at hs
    obtain ⟨hout, hrouted⟩ := log_chunk h hq
    refine ⟨up.pop c rest hq, ?_⟩
    cases hn : s.nextHopConn with
    | none =>
      rw [hn] at hs
      obtain ⟨-, -, hs⟩ := bind_eq_ok.1 hs
      cases hs
      refine { h with c2s := rfl, dstOut := hout, routed := hrouted, connects := ?_, nextHop := ?_ }
      · rw [h.connects, hn]
        rfl
      · intro d hd
        exact (Option.mem_some_iff.1 hd).symm
    | some d =>
      obtain rfl := h.nextHop d (by simp [hn])
      rw [hn] at hs
      cases hs
      refine { h with c2s := rfl, dstOut := hout, routed := hrouted, connects := ?_, nextHop := ?_ }
      · rw [h.connects, hn]
      · intro d hd
        exact h.nextHop d (by rw [hn]; exact hd)

theorem serverHop_refines (h : Refines P s up down) (hs : serverHop P s = .ok t) : ∃ down', Refines P t up down' := by
  unfold serverHop at hs
  obtain ⟨⟨branch, dstIn⟩, h1, hs⟩ := bind_eq_ok.1 hs
  rcases nextHopReadable_ok h1 with rfl | ⟨taken, hc, rfl⟩
  · cases hs
    exact ⟨down, { h with }⟩
  · cases hs
    refine ⟨down.push taken hc, { h with dstRead := ?_, s2c := ?_ }⟩
    · simp only [Pipe.push, h.dstRead]
    · simp only [Pipe.push, h.s2c, List.map_append, stream_append, List.map_singleton, stream_singleton, Setup.downPacket]

theorem clientIter_refines (hM : P.module.Undoes) (hsp : P.module.Speaks P.bindPort) (h : Refines P s up down)
    {app hop : Bool} (hs : clientIter P app hop s = .ok t) : ∃ up' down', Refines P t up' down' := by
  unfold clientIter at hs
  obtain ⟨s1, h1, hs⟩ := bind_eq_ok.1 hs
  obtain ⟨up', h'⟩ : ∃ up', Refines P s1 up' down := by
    split at h1
    · exact clientApp_refines h h1
    · cases h1
      exact ⟨up, h⟩
  split at hs
  · exact ⟨up', clientHop_refines hM hsp h' hs⟩
  · cases hs
    exact ⟨up', down, h'⟩

theorem serverIter_refines (hM : P.module.Undoes) (hip : isDnsQuery P.template = false) (h : Refines P s up down)
    {conn hop : Bool} (hs : serverIter P conn hop s = .ok t) : ∃ up' down', Refines P t up' down' := by
  unfold serverIter at hs
  obtain ⟨s1, h1, hs⟩ := bind_eq_ok.1 hs
  obtain ⟨up', h'⟩ : ∃ up', Refines P s1 up' down := by
    split at h1
    · exact serverConn_refines hM hip h h1
    · cases h1
      exact ⟨up, h⟩
  split at hs
  · exact ⟨up', serverHop_refines h' hs⟩
  · cases hs
    exact ⟨up', down, h'⟩

/-- A step of the relay is a successful round. -/
theorem relay_step {a : Act} (he : (relay P).enabled s a) : round P s a = .ok ((relay P).next s a) := by
  simp only [relay] at he ⊢
  cases hr : round P s a with
  | ok t => rfl
  | error e =>
    rw [hr] at he
    cases he

/-- Every reachable state is two lossless pipes. -/
theorem refines_of_reach (hM : P.module.Undoes) (hsp : P.module.Speaks P.bindPort) (hip : isDnsQuery P.template = false)
    (hr : (relay P).Reachable s) : ∃ up down, Refines P s up down := by
  refine hr.induct (I := fun s => ∃ up down, Refines P s up down) ⟨.empty, .empty, ?_⟩ ?_
  · constructor <;> simp [relay, State.init, State.dstOut, Pipe.empty]
  · rintro s a - ⟨up, down, h⟩ he -
    have hs := relay_step he
    cases a with
    | client app hop =>
      rw [round] at hs
      split at hs
      · exact clientIter_refines hM hsp h hs
      · cases hs
    | server conn hop =>
      rw [round] at hs
      split at hs
      · exact serverIter_refines hM hip h hs
      · cases hs

/-- The payloads of the frames in a tunnel. -/
def inFlight (decode : BinarySafeString → ClientQuery) (tunnel : Bytes) : Bytes :=
  ((deframe 4 tunnel).map fun body => (decode (.ofBlock body)).payload.bytes).flatten

theorem deframe_packets {packet : Bytes → Bytes} {cs : List Bytes} (hlt : ∀ c, (packet c).length < 256 ^ 4) :
    deframe 4 (stream 4 (cs.map packet)) = cs.map packet := by
  refine deframe_stream (by omega) ?_
  intro b hb
  obtain ⟨c, -, rfl⟩ := List.mem_map.1 hb
  exact hlt c

theorem inFlight_stream {decode : BinarySafeString → ClientQuery} {packet : Bytes → Bytes} {cs : List Bytes}
    (hlt : ∀ c, (packet c).length < 256 ^ 4) (h : ∀ c ∈ cs, (decode (.ofBlock (packet c))).payload.bytes = c) :
    inFlight decode (stream 4 (cs.map packet)) = cs.flatten := by
  rw [inFlight, deframe_packets hlt, List.map_map, List.map_congr_left (g := id)]
  · rw [List.map_id]
  · intro c hc
    exact h c hc

theorem isDnsQuery_eq_false {q : ClientQuery} (h : q.destinationIp ≠ Vector.replicate 16 0) : isDnsQuery q = false := by
  rw [isDnsQuery, List.all_eq_false]
  by_contra hc
  simp only [decide_eq_true_eq, not_exists, not_and, not_not] at hc
  refine h (Vector.toList_inj.1 ?_)
  rw [Vector.toList_replicate]
  exact List.eq_replicate_iff.2 ⟨by simp, hc⟩

/-- In every state two independent loops can reach without an error, for every module whose decoding undoes its
encoding and whose server never sends an empty packet: the tunnel holds whole frames, what is written on one side
followed by their payloads is what was read on the other, and all of it went to the one destination of the template. -/
theorem relay_integrity (hM : P.module.Undoes) (hsp : P.module.Speaks P.bindPort)
    (hip : P.template.destinationIp ≠ Vector.replicate 16 0) (hr : (relay P).Reachable s) :
    (stream 4 (deframe 4 s.c2s) = s.c2s ∧ stream 4 (deframe 4 s.s2c) = s.s2c) ∧
    s.dstOut ++ inFlight P.module.serverDecode s.c2s = s.appRead ∧
    s.appOut ++ inFlight P.module.clientDecode s.s2c = s.dstRead ∧
    (∀ w ∈ s.dstLog, w.1 = destOf P.template) ∧ (s.connects = [] ∨ s.connects = [destOf P.template]) := by
  obtain ⟨up, down, h⟩ := refines_of_reach hM hsp (isDnsQuery_eq_false hip) hr
  refine ⟨⟨?_, ?_⟩, ?_, ?_, h.routed, ?_⟩
  · rw [h.c2s, deframe_packets P.length_upPacket_lt]
  · rw [h.s2c, deframe_packets P.length_downPacket_lt]
  · have hin : inFlight P.module.serverDecode (stream 4 (up.queue.map P.upPacket)) = up.queue.flatten :=
      inFlight_stream P.length_upPacket_lt fun c hc => (decode_up hM (up.sized c hc)).2.2
    rw [h.appRead, h.dstOut, h.c2s, hin, up.lossless]
  · have hin : inFlight P.module.clientDecode (stream 4 (down.queue.map P.downPacket)) = down.queue.flatten :=
      inFlight_stream P.length_downPacket_lt fun c hc => decode_down hM (down.sized c hc)
    rw [h.dstRead, h.appOut, h.s2c, hin, down.lossless]
  · rw [h.connects]
    cases hn : s.nextHopConn with
    | none => exact .inl rfl
    | some d => exact .inr (by rw [h.nextHop d (by simp [hn])]; rfl)

end

/-! ## Two modules -/

/-- `simple_proxy.c` on one connection. -/
def simpleProxy (junk : Nat → UInt8) (stack : ClientQuery) (conn : ConnectInfo) : Module where
  clientEncode q := (SimpleProxy.clientEncode junk conn q).toOption.getD (.null false)
  clientDecode dat := (SimpleProxy.clientDecode junk stack conn dat).toOption.getD stack
  serverEncode q := (SimpleProxy.serverEncode junk conn q).toOption.getD (.null false)
  serverDecode dat := (SimpleProxy.serverDecode junk stack conn dat).toOption.getD stack

/-- Whatever block the bytes of the packet arrive in, the query comes back, and the packet is not empty. -/
theorem simpleProxy_brings (junk : Nat → UInt8) (stack : ClientQuery) (conn : ConnectInfo) {q : ClientQuery}
    (h : 27 + q.payload.length.toNat < 2 ^ 32) :
    ((simpleProxy junk stack conn).clientEncode q).length.toNat = 27 + q.payload.length.toNat ∧
      ∀ got : BinarySafeString, got.bytes = ((simpleProxy junk stack conn).clientEncode q).bytes →
        ((simpleProxy junk stack conn).serverDecode got).Same q := by
  obtain ⟨dat, henc, hlen, hdec⟩ := SimpleProxy.decode_encode junk junk stack h (Eq.refl conn.passphrase.bytes)
  have hget : (simpleProxy junk stack conn).clientEncode q = dat := by
    show (SimpleProxy.encode junk conn q).toOption.getD (.null false) = dat
    rw [henc]
    rfl
  rw [hget]
  refine ⟨hlen, ?_⟩
  intro got hgot
  obtain ⟨r, hr, hsame⟩ := hdec got hgot
  show ((SimpleProxy.decode junk stack conn got).toOption.getD stack).Same q
  rw [hr]
  exact hsame

/-- It is a module a relay can use. -/
theorem simpleProxy_lawful (junk : Nat → UInt8) (stack : ClientQuery) (conn : ConnectInfo) (bindPort : UInt16) :
    (simpleProxy junk stack conn).Undoes ∧ (simpleProxy junk stack conn).Speaks bindPort := by
  have key : ∀ q : ClientQuery, q.payload.length.toNat ≤ 1024 → ((simpleProxy junk stack conn).serverDecode
      (.ofBlock ((simpleProxy junk stack conn).clientEncode q).bytes)).Same q := by
    intro q hq
    exact (simpleProxy_brings _ _ _ (by omega)).2 _ (BinarySafeString.ofBlock_bytes_bytes _)
  refine ⟨⟨key, key⟩, ?_⟩
  intro c hne hle h0
  obtain ⟨-, hl, -⟩ := ofBlock_chunk ⟨hne, hle⟩
  have hlt : 27 + (chunkQuery bindPort c).payload.length.toNat < 2 ^ 32 := by
    simp only [chunkQuery, hl]
    omega
  have hlen : ((simpleProxy junk stack conn).clientEncode (chunkQuery bindPort c)).length.toNat = _ :=
    (simpleProxy_brings _ _ _ hlt).1
  have hz : ((simpleProxy junk stack conn).clientEncode (chunkQuery bindPort c)).length = 0 := h0
  rw [hz] at hlen
  simp at hlen
  omega

/-- Address, port and payload one after the other, and the empty string for one chosen query. -/
def barePack (q : ClientQuery) : Bytes := q.destinationIp.toList ++ leBytes 2 q.destinationPort.toNat ++ q.payload.bytes

def bareUnpack (bs : Bytes) : ClientQuery :=
  ⟨ip16 (slice bs 0 16), UInt16.ofNat (leNat (slice bs 16 2)), .ofBlock (bs.drop 18)⟩

def muteEncode (muted q : ClientQuery) : BinarySafeString :=
  if barePack q = barePack muted then .null false else .ofBlock (barePack q)

def muteDecode (muted : ClientQuery) (dat : BinarySafeString) : ClientQuery :=
  if dat.bytes = [] then bareUnpack (barePack muted) else bareUnpack dat.bytes

def muteModule (muted : ClientQuery) : Module := ⟨muteEncode muted, muteDecode muted, muteEncode muted, muteDecode muted⟩

theorem bareUnpack_barePack (q : ClientQuery) : (bareUnpack (barePack q)).Same q := by
  have hip : slice (barePack q) 0 16 = q.destinationIp.toList := by
    rw [slice_zero_left, barePack, List.append_assoc, List.take_left' (by simp)]
  have hport : slice (barePack q) 16 2 = leBytes 2 q.destinationPort.toNat := by
    rw [barePack, List.append_assoc, slice_append_right (by simp)]
    simp [slice]
  have hpay : (barePack q).drop 18 = q.payload.bytes := by
    rw [barePack, List.drop_left' (by simp)]
  have hlt : q.payload.bytes.length < 2 ^ 32 := by
    rw [BinarySafeString.length_bytes]
    exact q.payload.length.toNat_lt
  refine ⟨?_, ?_, ?_, ?_⟩
  · simp only [bareUnpack]
    rw [hip, ip16_toList]
  · have hp := q.destinationPort.toNat_lt
    simp only [bareUnpack]
    rw [hport, leNat_leBytes 2 _ (by omega), UInt16.ofNat_toNat]
  · apply UInt32.toNat_inj.1
    simp only [bareUnpack]
    rw [hpay, BinarySafeString.ofBlock_length hlt, BinarySafeString.length_bytes]
  · simp only [bareUnpack]
    rw [hpay, BinarySafeString.ofBlock_bytes hlt]

theorem muteModule_undoes (muted : ClientQuery) : (muteModule muted).Undoes := by
  have key : ∀ q : ClientQuery, q.payload.length.toNat ≤ 1024 →
      (muteDecode muted (.ofBlock (muteEncode muted q).bytes)).Same q := by
    intro q hq
    by_cases hm : barePack q = barePack muted
    · have hnil : (BinarySafeString.ofBlock (muteEncode muted q).bytes).bytes = [] := by
        rw [muteEncode, if_pos hm]
        rfl
      rw [muteDecode, if_pos hnil, ← hm]
      exact bareUnpack_barePack q
    · have hlen : (barePack q).length = 18 + q.payload.length.toNat := by
        simp [barePack]
        omega
      have hlt : (barePack q).length < 2 ^ 32 := by omega
      have hbytes : (BinarySafeString.ofBlock (muteEncode muted q).bytes).bytes = barePack q := by
        rw [muteEncode, if_neg hm, BinarySafeString.ofBlock_bytes hlt, BinarySafeString.ofBlock_bytes hlt]
      have hne : ¬(BinarySafeString.ofBlock (muteEncode muted q).bytes).bytes = [] := by
        rw [hbytes]
        intro h0
        rw [h0, List.length_nil] at hlen
        omega
      rw [muteDecode, if_neg hne, hbytes]
      exact bareUnpack_barePack q
  exact ⟨key, key⟩

/-! ## Runs -/

/-- A module, and what the two ends send. The destination is 10.0.0.7:80. -/
def sampleSetup (module : Module) (appIn dstIn : List RecvEv) : Setup where
  module := module
  template := ⟨ip16 [10, 0, 0, 7], 80, .null false⟩
  bindPort := 9000
  resolve _ := .error .failed
  dial _ := .ok ()
  junk _ _ := 0
  fuel := 0
  appIn := appIn
  dstIn := dstIn

/-- A request there, an answer back. -/
def thereAndBack : List Act := [.client true false, .server true false, .server false true, .client false true]

/-- What a run leaves: the two outputs, the bytes read from the destination and the tunnel back. -/
def outcome (P : Setup) (as : List Act) : Option (Bytes × Bytes × Bytes × Bytes) :=
  ((relay P).replay (fun _ _ => True) (.init P) as).map fun s => (s.dstOut, s.appOut, s.dstRead, s.s2c)

theorem reach_of_outcome {P : Setup} {as : List Act} {dstOut appOut dstRead s2c : Bytes}
    (h : outcome P as = some (dstOut, appOut, dstRead, s2c)) : ∃ s, (relay P).Reachable s ∧ s.dstOut = dstOut ∧
      s.appOut = appOut ∧ s.dstRead = dstRead ∧ s.s2c = s2c := by
  obtain ⟨s, hs, heq⟩ := Option.map_eq_some_iff.1 h
  simp only [Prod.mk.injEq] at heq
  exact ⟨s, Lts.System.replay_reach as .init hs, heq⟩

def simpleSetup : Setup :=
  sampleSetup (simpleProxy (fun _ => 0) (chunkQuery 0 []) ⟨.ofBlock [65], none⟩) [.data [1, 2]] [.data [3]]

theorem relay_integrity_simple_proxy : ∃ s, (relay simpleSetup).Reachable s ∧ s.dstOut = [1, 2] ∧ s.appOut = [3] ∧
    (stream 4 (deframe 4 s.c2s) = s.c2s ∧ stream 4 (deframe 4 s.s2c) = s.s2c) ∧
    s.dstOut ++ inFlight simpleSetup.module.serverDecode s.c2s = s.appRead ∧
    s.appOut ++ inFlight simpleSetup.module.clientDecode s.s2c = s.dstRead ∧
    (∀ w ∈ s.dstLog, w.1 = destOf simpleSetup.template) ∧
    (s.connects = [] ∨ s.connects = [destOf simpleSetup.template]) := by
  have hrun : outcome simpleSetup thereAndBack = some ([1, 2], [3], [3], []) := by decide +kernel
  obtain ⟨s, hr, h1, h2, -, -⟩ := reach_of_outcome hrun
  obtain ⟨hM, hsp⟩ := simpleProxy_lawful (fun _ => 0) (chunkQuery 0 []) ⟨.ofBlock [65], none⟩ 9000
  exact ⟨s, hr, h1, h2, relay_integrity hM hsp (by decide) hr⟩

/-- The module encodes the destination's one answer `A` as the empty string. -/
def muteSetup : Setup := sampleSetup (muteModule (chunkQuery 9000 [65])) [.data [1, 2]] [.data [65]]

/-- The client takes the empty packet for the end of the connection: the answer is gone. -/
theorem empty_packet_lost : muteSetup.module.Undoes ∧ muteSetup.template.destinationIp ≠ Vector.replicate 16 0 ∧
    ∃ s, (relay muteSetup).Reachable s ∧ s.appOut ++ inFlight muteSetup.module.clientDecode s.s2c ≠ s.dstRead := by
  refine ⟨muteModule_undoes _, by decide, ?_⟩
  have hrun : outcome muteSetup thereAndBack = some ([1, 2], [], [65], []) := by decide +kernel
  obtain ⟨s, hr, -, h2, h3, h4⟩ := reach_of_outcome hrun
  refine ⟨s, hr, ?_⟩
  rw [h2, h3, h4]
  simp [inFlight, deframe, deframeAux]

end SnakeSocks.Tunnel
