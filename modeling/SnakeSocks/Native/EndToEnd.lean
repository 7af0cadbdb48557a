import SnakeSocks.Module.Eavesdrop
import SnakeSocks.Native.Classify

/-!
# From the application to the destination

The pieces put together: the front end of `skcli` (`Native/Socks5.lean`), the template it makes of the request
(`Native/Address.lean`) and the two loops (`Native/Relay.lean`), under either module.

`relay_drains` is about what the loops can still do: whatever is in the tunnel comes out by rounds on the tunnel alone, unless
the destination cannot be dialled. `relay_tapped` is about somebody who looks at the tunnel without the session key.
`connect_end_to_end` is about the whole way: what is written to the destination is what the application sent behind its
request, and the destination is the IPv4 address it asked for (an IPv6 address is not dialled, `dial_text_iff`).
-/

namespace SnakeSocks.Tunnel

open ByteLib CMem Frames
open Sio (RecvEv delivered)
open NetLib (maxPacket)

/-! ## `se_proxy` in the relay -/

/-- `se_proxy.c` on one connection, with the session key each end holds. -/
def seProxy (junk : CMem.Junk) (stack : ClientQuery) (pass : BinarySafeString) (cli srv : SymPassphrase) : Module where
  clientEncode q := (SeProxy.clientEncode junk ⟨pass, some cli⟩ q).toOption.getD (.null false)
  clientDecode dat := (SeProxy.clientDecode junk stack ⟨pass, some cli⟩ dat).toOption.getD stack
  serverEncode q := (SeProxy.serverEncode junk ⟨pass, some srv⟩ q).toOption.getD (.null false)
  serverDecode dat := (SeProxy.serverDecode junk stack ⟨pass, some srv⟩ dat).toOption.getD stack

/-- A packet of `se_proxy` is a little longer than its query, and gives it back under the same key. -/
theorem seProxy_brings (junk : Junk) (stack : ClientQuery) (pass : BinarySafeString) {enc dec : SymPassphrase}
    (hkey : enc.key = dec.key) {q : ClientQuery} (hq : q.payload.length.toNat ≤ 1024) :
    let dat := (SeProxy.encode junk ⟨pass, some enc⟩ q).toOption.getD (.null false)
    (dat.length ≠ 0 ∧ dat.length.toNat ≤ 2048) ∧
      ((SeProxy.decode junk stack ⟨pass, some dec⟩ (.ofBlock dat.bytes)).toOption.getD stack).Same q := by
  obtain ⟨data, -, hc, he⟩ := SeProxy.encode_eq junk pass enc q
  obtain ⟨b, r, henc, hdec, hsame⟩ := SeProxy.decode_encode junk junk stack pass pass hkey (q := q) (by omega)
  have hl := hc.length_eq
  have hb := Aes.roundUp_bounds data.length
  have hpad := Aes.length_fillPad data
  rw [Aes.staged_eq (by omega) (by simp)] at he
  have hel := Aes.length_encFirst (Aes.rkeyOf enc.key) (Aes.fillPad data) (by omega)
  have hlt : (Aes.encFirst (Aes.rkeyOf enc.key) (Aes.fillPad data)).length < 2 ^ 32 := by omega
  have hblk : b = .ofBlock (Aes.encFirst (Aes.rkeyOf enc.key) (Aes.fillPad data)) := Except.ok.inj (henc.symm.trans he)
  have hlen : b.length.toNat = Aes.roundUp data.length 16 := by
    rw [hblk, BinarySafeString.ofBlock_length hlt, hel, hpad]
  have hsame_block : BinarySafeString.ofBlock b.bytes = b := by
    rw [hblk, BinarySafeString.ofBlock_bytes hlt]
  rw [henc]
  show (b.length ≠ 0 ∧ b.length.toNat ≤ 2048) ∧
    ((SeProxy.decode junk stack ⟨pass, some dec⟩ (.ofBlock b.bytes)).toOption.getD stack).Same q
  refine ⟨⟨fun h0 => ?_, by omega⟩, ?_⟩
  · rw [h0] at hlen
    simp at hlen
    omega
  · rw [hsame_block, hdec]
    exact hsame

/-! ## What a session needs -/

/-- A module that decodes what it encodes, in packets that are neither empty nor too long, and a template that is no DNS
query. -/
structure Setup.Lawful (P : Setup) : Prop where
  undoes : P.module.Undoes
  speaks : P.module.Speaks P.bindPort
  fits : ∀ c : Bytes, c ≠ [] → c.length ≤ 1024 → (P.upPacket c).length ≤ maxPacket
  data : isDnsQuery P.template = false

theorem lawful_simpleProxy {P : Setup} {junk : Nat → UInt8} {stack : ClientQuery} {conn : ConnectInfo}
    (hM : P.module = simpleProxy junk stack conn) (hd : isDnsQuery P.template = false) : P.Lawful := by
  obtain ⟨hu, hs⟩ := simpleProxy_lawful junk stack conn P.bindPort
  refine ⟨hM ▸ hu, hM ▸ hs, fun c hne hle => ?_, hd⟩
  obtain ⟨-, hl, h0⟩ := ofBlock_chunk ⟨hne, hle⟩
  have hlen := (simpleProxy_brings junk stack conn (q := { P.template with payload := .ofBlock c })
    (by simp only [hl]; omega)).1
  rw [Setup.upPacket, BinarySafeString.length_bytes, clientEncode, if_pos h0, hM, hlen]
  simp only [hl, maxPacket]
  omega

theorem lawful_seProxy {P : Setup} {junk : Junk} {stack : ClientQuery} {pass : BinarySafeString} {cli srv : SymPassphrase}
    (hkey : cli.key = srv.key) (hM : P.module = seProxy junk stack pass cli srv) (hd : isDnsQuery P.template = false) :
    P.Lawful := by
  refine ⟨⟨fun q hq => ?_, fun q hq => ?_⟩, fun c hne hle => ?_, fun c hne hle => ?_, hd⟩
  · rw [hM]
    exact (seProxy_brings junk stack pass hkey hq).2
  · rw [hM]
    exact (seProxy_brings junk stack pass hkey.symm hq).2
  · obtain ⟨-, hl, -⟩ := ofBlock_chunk ⟨hne, hle⟩
    rw [hM]
    exact (seProxy_brings junk stack pass hkey.symm (q := chunkQuery P.bindPort c) (by rw [chunkQuery, hl]; exact hle)).1.1
  · obtain ⟨-, hl, h0⟩ := ofBlock_chunk ⟨hne, hle⟩
    have hlen := (seProxy_brings junk stack pass hkey (q := { P.template with payload := .ofBlock c })
      (by simp only [hl]; exact hle)).1.2
    rw [Setup.upPacket, BinarySafeString.length_bytes, clientEncode, if_pos h0, hM]
    exact hlen.trans (by decide)

/-! ## Everything in the tunnel comes out -/

section
variable {P : Setup} {s : State} {up down : Pipe}

/-- There is a connection to the destination, or there would be if it was dialled. -/
def Connects (P : Setup) (s : State) : Prop := s.nextHopConn ≠ none ∨ P.dial (destOf P.template) = .ok ()

/-- The next packet on the way up, taken by a round of the server. -/
theorem serverConn_pop (hP : P.Lawful) (h : Refines P s up down) (hconn : Connects P s) {c : Bytes} {rest : List Bytes}
    (hq : up.queue = c :: rest) : ∃ t, serverConn P s = .ok t ∧ Refines P t (up.pop c rest hq) down ∧
      Connects P t ∧ t.cliUp = s.cliUp ∧ t.srvUp = s.srvUp := by
  have hc := up.sized c (by simp [hq])
  obtain ⟨hdip, hdport, hpay⟩ := decode_up hP.undoes hc
  have hrecv : recvLengthAndPacket s.c2s = .ok (P.upPacket c, stream 4 (rest.map P.upPacket)) := by
    obtain ⟨hdr, hr, hlen⟩ := recvn_header (P.length_upPacket_lt c) (stream 4 (rest.map P.upPacket))
    have hfit : ¬(P.upPacket c).length > 64 * 1024 * 1024 := Nat.not_lt.2 (hP.fits c hc.1 hc.2)
    rw [h.c2s, hq, List.map_cons, stream_cons, recvLengthAndPacket, hr, ok_bind]
    simp only [hlen, if_neg hfit, recvn_body]
  have hdns : isDnsQuery (P.module.serverDecode (.ofBlock (P.upPacket c))) = false := by
    rw [isDnsQuery, hdip]
    exact hP.data
  have hdest : destOf (P.module.serverDecode (.ofBlock (P.upPacket c))) = destOf P.template := by
    rw [destOf, destOf, hdip, hdport]
  obtain ⟨hout, hrouted⟩ := log_chunk h hq
  cases hn : s.nextHopConn with
  | none =>
    refine ⟨{ s with
      c2s := stream 4 (rest.map P.upPacket), nextHopConn := some (destOf P.template),
      connects := s.connects ++ [destOf P.template], dstLog := s.dstLog ++ [(destOf P.template, c)] }, ?_,
      { h with c2s := rfl, dstOut := hout, routed := hrouted, connects := ?_, nextHop := ?_ }, .inl (Option.some_ne_none _), rfl, rfl⟩
    · have hdial : P.dial (destOf P.template) = .ok () := hconn.resolve_left (not_not.2 hn)
      simp only [serverConn, hrecv, ok_bind, hdns, Bool.false_eq_true, if_false, hn, hdest, hpay, hdial, pure_eq_ok]
    · rw [h.connects, hn]
      rfl
    · intro d hd
      exact (Option.mem_some_iff.1 hd).symm
  | some d =>
    obtain rfl := h.nextHop d (by simp [hn])
    refine ⟨{ s with
      c2s := stream 4 (rest.map P.upPacket), dstLog := s.dstLog ++ [(destOf P.template, c)] }, ?_,
      { h with c2s := rfl, dstOut := hout, routed := hrouted }, .inl (by simp [hn]), rfl, rfl⟩
    simp only [serverConn, hrecv, ok_bind, hdns, Bool.false_eq_true, if_false, hn, hpay, pure_eq_ok]

/-- A round of the server that takes a packet has, or makes, a connection. -/
theorem connects_of_serverConn (hP : P.Lawful) (h : Refines P s up down) {t : State} (hs : serverConn P s = .ok t) :
    Connects P s := by
  unfold serverConn at hs
  obtain ⟨⟨data, c2s⟩, hrecv, hs⟩ := bind_eq_ok.1 hs
  cases hq : up.queue with
  | nil =>
    rw [h.c2s, hq, List.map_nil, stream_nil, recvLengthAndPacket, recvn_nil] at hrecv
    cases hrecv
  | cons c rest =>
    rw [h.c2s, hq, List.map_cons, stream_cons] at hrecv
    obtain ⟨rfl, rfl⟩ := Prod.mk.inj (recvLengthAndPacket_frame (P.length_upPacket_lt c) hrecv)
    obtain ⟨hdip, hdport, -⟩ := decode_up hP.undoes (up.sized c (by simp [hq]))
    have hdns : isDnsQuery (P.module.serverDecode (.ofBlock (P.upPacket c))) = false := by
      rw [isDnsQuery, hdip]
      exact hP.data
    have hdest : destOf (P.module.serverDecode (.ofBlock (P.upPacket c))) = destOf P.template := by
      rw [destOf, destOf, hdip, hdport]
    cases hn : s.nextHopConn with
    | none =>
      simp only [hdns, hn, hdest, Bool.false_eq_true, if_false] at hs
      obtain ⟨_, hdial, -⟩ := bind_eq_ok.1 hs
      exact .inr hdial
    | some d => exact .inl (by simp [hn])

/-- The next packet on the way down, taken by a round of the client. -/
theorem clientHop_pop (hP : P.Lawful) (h : Refines P s up down) {c : Bytes} {rest : List Bytes}
    (hq : down.queue = c :: rest) : ∃ t, clientHop P s = .ok t ∧ Refines P t up (down.pop c rest hq) ∧
      t.cliUp = s.cliUp ∧ t.srvUp = s.srvUp := by
  have hc := down.sized c (by simp [hq])
  obtain ⟨hdr, hrecv, hlen⟩ := recvn_header (P.length_downPacket_lt c) (stream 4 (rest.map P.downPacket))
  have hne : (P.downPacket c).length ≠ 0 := by
    intro h0
    rw [Setup.downPacket, BinarySafeString.length_bytes] at h0
    exact hP.speaks c hc.1 hc.2 (UInt32.toNat_inj.1 h0)
  refine ⟨{ s with s2c := stream 4 (rest.map P.downPacket), appOut := s.appOut ++ c }, ?_,
    { h with s2c := rfl, appOut := ?_ }, rfl, rfl⟩
  · rw [clientHop, h.s2c, hq, List.map_cons, stream_cons, hrecv, ok_bind]
    simp only [hlen, hne, if_false, recvn_body, ok_bind, decode_down hP.undoes hc, pure_eq_ok]
  · show s.appOut ++ c = _
    rw [h.appOut]
    rfl

/-- A round that succeeds is a step. -/
theorem enabled_of_round {a : Act} {t : State} (h : round P s a = .ok t) :
    (relay P).enabled s a ∧ (relay P).next s a = t := by
  simp only [relay, h]
  exact ⟨rfl, trivial⟩

/-- Rounds of the server in which only the tunnel is readable. -/
theorem server_drains (hP : P.Lawful) (hup : s.srvUp = true) (h : Refines P s up down) (hconn : Connects P s) :
    ∃ t, (relay P).Path (fun _ a => a = .server true false) s t ∧ t.c2s = [] ∧ t.dstOut = s.appRead ∧
      t.appRead = s.appRead ∧ t.s2c = s.s2c ∧ t.cliUp = s.cliUp := by
  -- by the packets that are still in the tunnel
  induction hn : up.queue generalizing s up with
  | nil =>
    refine ⟨s, .refl s, ?_, ?_, rfl, rfl, rfl⟩
    · rw [h.c2s, hn]
      rfl
    · have hl := up.lossless
      rw [hn, List.flatten_nil, List.append_nil] at hl
      rw [h.dstOut, hl, h.appRead]
  | cons c rest ih =>
    obtain ⟨t, ht, href, hconn', hcli, hsrv⟩ := serverConn_pop hP h hconn hn
    have hround : round P s (.server true false) = .ok t := by
      simp [round, hup, serverIter, ht]
    obtain ⟨he, hnext⟩ := enabled_of_round hround
    obtain ⟨t', hpath, h1, h2, h3, h4, h5⟩ := ih (hsrv.trans hup) href hconn' rfl
    have happ : t.appRead = s.appRead := href.appRead.trans h.appRead.symm
    have hs2c : t.s2c = s.s2c := href.s2c.trans h.s2c.symm
    refine ⟨t', .step _ he rfl (hnext ▸ hpath), h1, h2.trans happ, h3.trans happ, h4.trans hs2c, h5.trans hcli⟩

/-- Rounds of the client in which only the tunnel is readable. -/
theorem client_drains (hP : P.Lawful) (hup : s.cliUp = true) (h : Refines P s up down) :
    ∃ t, (relay P).Path (fun _ a => a = .client false true) s t ∧ t.s2c = [] ∧ t.appOut = s.dstRead ∧
      t.dstRead = s.dstRead ∧ t.c2s = s.c2s ∧ t.srvUp = s.srvUp := by
  induction hn : down.queue generalizing s down with
  | nil =>
    refine ⟨s, .refl s, ?_, ?_, rfl, rfl, rfl⟩
    · rw [h.s2c, hn]
      rfl
    · have hl := down.lossless
      rw [hn, List.flatten_nil, List.append_nil] at hl
      rw [h.appOut, hl, h.dstRead]
  | cons c rest ih =>
    obtain ⟨t, ht, href, hcli, hsrv⟩ := clientHop_pop hP h hn
    have hround : round P s (.client false true) = .ok t := by
      simp [round, hup, clientIter, ht]
    obtain ⟨he, hnext⟩ := enabled_of_round hround
    obtain ⟨t', hpath, h1, h2, h3, h4, h5⟩ := ih (hcli.trans hup) href rfl
    have hread : t.dstRead = s.dstRead := href.dstRead.trans h.dstRead.symm
    have hc2s : t.c2s = s.c2s := href.c2s.trans h.c2s.symm
    refine ⟨t', .step _ he rfl (hnext ▸ hpath), h1, h2.trans hread, h3.trans hread, h4.trans hc2s, h5.trans hsrv⟩

/-- The rounds of the server stop at the first packet if there is no connection and none can be made. -/
theorem connects_of_drained (hP : P.Lawful) (h : Refines P s up down) {t : State}
    (hpath : (relay P).Path (fun _ a => a = .server true false) s t) (ht : t.c2s = []) : s.c2s = [] ∨ Connects P s := by
  cases hpath with
  | refl => exact .inl ht
  | step a he ha hpath =>
    subst ha
    have hround := relay_step he
    rw [round] at hround
    split at hround
    swap
    · cases hround
    rw [serverIter] at hround
    obtain ⟨s₁, hconn, -⟩ := bind_eq_ok.1 hround
    exact .inr (connects_of_serverConn hP h hconn)

end

section
variable {P : Setup} {s : State} {junk : Junk} {stack : ClientQuery} {pass : BinarySafeString} {cli srv : SymPassphrase}

/-- The payload of a packet of `se_proxy`, to somebody who does not have the key. -/
theorem unpacked_encode (junk : Junk) (pass : BinarySafeString) (pw : SymPassphrase) {q : ClientQuery}
    (hq : q.payload.length.toNat ≤ 1024) :
    (unpacked ((SeProxy.encode junk ⟨pass, some pw⟩ q).toOption.getD (.null false)).bytes).payload.bytes =
      q.payload.bytes := by
  obtain ⟨data, henc, -, hc, hlt⟩ := SeProxy.encode_wire junk pass pw (q := q) (by omega)
  rw [henc]
  show (unpacked (BinarySafeString.ofBlock _).bytes).payload.bytes = _
  rw [BinarySafeString.ofBlock_bytes hlt]
  exact (SeProxy.unpacked_wire hc).2

/-- In every state the two loops can reach under `se_proxy`, whatever the session key is, the bytes in the tunnel tell
without it what is still to be written on both sides. -/
theorem relay_tapped (hkey : cli.key = srv.key) (hM : P.module = seProxy junk stack pass cli srv)
    (hd : isDnsQuery P.template = false) (hr : (relay P).Reachable s) :
    s.dstOut ++ inFlight (fun dat => unpacked dat.bytes) s.c2s = s.appRead ∧
      s.appOut ++ inFlight (fun dat => unpacked dat.bytes) s.s2c = s.dstRead := by
  have hP : P.Lawful := lawful_seProxy hkey hM hd
  obtain ⟨up, down, h⟩ := refines_of_reach hP.undoes hP.speaks hP.data hr
  constructor
  · have hin : inFlight (fun dat => unpacked dat.bytes) (stream 4 (up.queue.map P.upPacket)) = up.queue.flatten := by
      refine inFlight_stream P.length_upPacket_lt fun c hc => ?_
      obtain ⟨hb, hl, h0⟩ := ofBlock_chunk (up.sized c hc)
      rw [BinarySafeString.ofBlock_bytes (P.length_upPacket_lt c), Setup.upPacket, clientEncode, if_pos h0, hM]
      refine (unpacked_encode junk pass cli (q := { P.template with payload := .ofBlock c }) ?_).trans hb
      rw [hl]
      exact (up.sized c hc).2
    rw [h.appRead, h.dstOut, h.c2s, hin, up.lossless]
  · have hin : inFlight (fun dat => unpacked dat.bytes) (stream 4 (down.queue.map P.downPacket)) = down.queue.flatten := by
      refine inFlight_stream P.length_downPacket_lt fun c hc => ?_
      obtain ⟨hb, hl, -⟩ := ofBlock_chunk (down.sized c hc)
      rw [BinarySafeString.ofBlock_bytes (P.length_downPacket_lt c), Setup.downPacket, hM]
      refine (unpacked_encode junk pass srv (q := chunkQuery P.bindPort c) ?_).trans hb
      rw [chunkQuery, hl]
      exact (down.sized c hc).2
    rw [h.dstRead, h.appOut, h.s2c, hin, down.lossless]

end

/-- A session of `se_proxy` with the key `[7]`. -/
def seSetup : Setup :=
  sampleSetup (seProxy (fun _ _ => 0) (chunkQuery 0 []) (.ofBlock [65]) ⟨1, [7], by decide⟩ ⟨1, [7], by decide⟩)
    [.data [1, 2]] [.data [3]]

/-- The two bytes are still on the way. -/
theorem relay_tapped_two_bytes : ∃ s, (relay seSetup).Reachable s ∧ s.dstOut = [] ∧
    inFlight (fun dat => unpacked dat.bytes) s.c2s = [1, 2] := by
  have hrun : ((relay seSetup).replay (fun _ _ => True) (.init seSetup) [.client true false]).map
      (fun s => (s.appRead, s.dstOut)) = some ([1, 2], []) := by decide +kernel
  obtain ⟨s, hs, heq⟩ := Option.map_eq_some_iff.1 hrun
  simp only [Prod.mk.injEq] at heq
  have hr : (relay seSetup).Reachable s := Lts.System.replay_reach _ .init hs
  have htap := (relay_tapped (P := seSetup) rfl rfl (by decide) hr).1
  rw [heq.2, heq.1, List.nil_append] at htap
  exact ⟨s, hr, heq.2, htap⟩

/-! ## The bytes of the application -/

/-- Nothing comes behind the end of a stream. -/
def EndsOnce (evs : List RecvEv) : Prop := ∀ pre post, evs = pre ++ .data [] :: post → post = []

theorem EndsOnce.tail {e : RecvEv} {evs : List RecvEv} (h : EndsOnce (e :: evs)) : EndsOnce evs := by
  intro pre post he
  exact h (e :: pre) post (by rw [he]; rfl)

theorem endsOnce_of_notMem {evs : List RecvEv} (h : .data [] ∉ evs) : EndsOnce evs := by
  rintro pre post rfl
  simp at h

/-- A `read` takes bytes off the front of the stream. -/
theorem script_read {evs evs' : List RecvEv} {n : Nat} {bs : Bytes} (h : script.read evs n = .ok (bs, evs'))
    (hev : EndsOnce evs) : EndsOnce evs' ∧ bs ++ delivered evs' = delivered evs := by
  cases evs with
  | nil => cases h
  | cons e evs =>
    cases e with
    | eintr => cases h
    | data d =>
      simp only [script] at h
      split at h
      · cases h
        refine ⟨hev.tail, ?_⟩
        by_cases hd : bs = []
        · subst hd
          rw [hev [] evs' rfl]
          rfl
        · rw [delivered, if_neg hd]
      · next hlong =>
        cases h
        have hne : d ≠ [] := by
          rintro rfl
          exact hlong (Nat.zero_le n)
        have hrest : d.drop n ≠ [] := by
          intro h0
          have := List.drop_eq_nil_iff.1 h0
          omega
        refine ⟨fun pre post he => ?_, ?_⟩
        · cases pre with
          | nil =>
            injection he with he
            injection he with he
            exact absurd he hrest
          | cons e pre =>
            injection he with _ he
            exact hev.tail pre post he
        · rw [delivered, if_neg hrest, delivered, if_neg hne, ← List.append_assoc, List.take_append_drop]

theorem readHalves_script {evs evs' : List RecvEv} {bs : Bytes} (h : readHalves script evs = .ok (bs, evs'))
    (hev : EndsOnce evs) : EndsOnce evs' ∧ bs ++ delivered evs' = delivered evs := by
  unfold readHalves at h
  obtain ⟨⟨b₁, evs₁⟩, h₁, h⟩ := bind_eq_ok.1 h
  obtain ⟨hev₁, heq₁⟩ := script_read h₁ hev
  simp only at h
  split at h
  · cases h
    exact ⟨hev₁, heq₁⟩
  · obtain ⟨⟨b₂, evs₂⟩, h₂, h⟩ := bind_eq_ok.1 h
    obtain ⟨hev₂, heq₂⟩ := script_read h₂ hev₁
    cases h
    refine ⟨hev₂, ?_⟩
    rw [List.append_assoc, heq₂, heq₁]

section
variable {P : Setup} {s t : State}

/-- What was read and what is still to be read are the streams the two ends send. -/
structure Streams (P : Setup) (s : State) : Prop where
  appEnds : EndsOnce s.appIn
  dstEnds : EndsOnce s.dstIn
  app : s.appRead ++ delivered s.appIn = delivered P.appIn
  dst : s.dstRead ++ delivered s.dstIn = delivered P.dstIn

theorem clientApp_streams (h : Streams P s) (hs : clientApp P s = .ok t) : Streams P t := by
  unfold clientApp at hs
  obtain ⟨⟨branch, appIn⟩, h1, hs⟩ := bind_eq_ok.1 hs
  unfold appReadable at h1
  obtain ⟨⟨bs, evs⟩, h2, h1⟩ := bind_eq_ok.1 h1
  have hread := orDie_eq_ok h2
  rw [readallStr_eq] at hread
  obtain ⟨hends, happ⟩ := readHalves_script hread h.appEnds
  simp only at h1
  split at h1
  · next hz =>
    cases h1
    cases hs
    rw [List.length_eq_zero_iff.1 hz, List.nil_append] at happ
    exact { h with appEnds := hends, app := by rw [happ, h.app] }
  · cases h1
    cases hs
    exact { h with appEnds := hends, app := by rw [List.append_assoc, happ, h.app] }

theorem serverHop_streams (h : Streams P s) (hs : serverHop P s = .ok t) : Streams P t := by
  unfold serverHop at hs
  obtain ⟨⟨branch, dstIn⟩, h1, hs⟩ := bind_eq_ok.1 hs
  unfold nextHopReadable at h1
  obtain ⟨⟨bs, evs⟩, h2, h1⟩ := bind_eq_ok.1 h1
  have hread := orDie_eq_ok h2
  rw [readallStr_eq] at hread
  obtain ⟨hends, hdst⟩ := readHalves_script hread h.dstEnds
  simp only at h1
  split at h1
  · next hz =>
    cases h1
    cases hs
    rw [List.length_eq_zero_iff.1 hz, List.nil_append] at hdst
    exact { h with dstEnds := hends, dst := by rw [hdst, h.dst] }
  · obtain ⟨sent, -, h1⟩ := bind_eq_ok.1 h1
    cases h1
    cases hs
    exact { h with dstEnds := hends, dst := by rw [List.append_assoc, hdst, h.dst] }

theorem clientHop_streams (h : Streams P s) (hs : clientHop P s = .ok t) : Streams P t := by
  unfold clientHop at hs
  obtain ⟨⟨binLen, s2c⟩, -, hs⟩ := bind_eq_ok.1 hs
  simp only at hs
  split at hs
  · cases hs
    exact { h with }
  · obtain ⟨⟨bridgeBuffer, s2c⟩, -, hs⟩ := bind_eq_ok.1 hs
    cases hs
    exact { h with }

theorem serverConn_streams (h : Streams P s) (hs : serverConn P s = .ok t) : Streams P t := by
  unfold serverConn at hs
  obtain ⟨⟨data, c2s⟩, -, hs⟩ := bind_eq_ok.1 hs
  simp only at hs
  split at hs
  · obtain ⟨domain, -, hs⟩ := bind_eq_ok.1 hs
    obtain ⟨nextHopIp, -, hs⟩ := bind_eq_ok.1 hs
    obtain ⟨sent, -, hs⟩ := bind_eq_ok.1 hs
    cases hs
    exact { h with }
  · split at hs
    · obtain ⟨-, -, hs⟩ := bind_eq_ok.1 hs
      cases hs
      exact { h with }
    · cases hs
      exact { h with }

/-- A round is one or two of the four. -/
theorem round_streams (h : Streams P s) {a : Act} (hs : round P s a = .ok t) : Streams P t := by
  cases a with
  | client app hop =>
    rw [round] at hs
    split at hs
    swap
    · cases hs
    unfold clientIter at hs
    obtain ⟨s₁, h₁, hs⟩ := bind_eq_ok.1 hs
    have h' : Streams P s₁ := by
      split at h₁
      · exact clientApp_streams h h₁
      · cases h₁
        exact h
    split at hs
    · exact clientHop_streams h' hs
    · cases hs
      exact h'
  | server conn hop =>
    rw [round] at hs
    split at hs
    swap
    · cases hs
    unfold serverIter at hs
    obtain ⟨s₁, h₁, hs⟩ := bind_eq_ok.1 hs
    have h' : Streams P s₁ := by
      split at h₁
      · exact serverConn_streams h h₁
      · cases h₁
        exact h
    split at hs
    · exact serverHop_streams h' hs
    · cases hs
      exact h'

theorem streams_of_reach (happ : EndsOnce P.appIn) (hdst : EndsOnce P.dstIn) (hr : (relay P).Reachable s) : Streams P s := by
  refine hr.induct ⟨happ, hdst, rfl, rfl⟩ ?_
  intro s a _ h he _
  exact round_streams h (relay_step he)

/-- What was written is the beginning of what the other end sends, in both directions, and one way it went to the destination
of the template, the only one that was dialled. -/
structure Relayed (P : Setup) (s : State) : Prop where
  dstOut : s.dstOut <+: delivered P.appIn
  appOut : s.appOut <+: delivered P.dstIn
  routed : ∀ w ∈ s.dstLog, w.1 = destOf P.template
  made : ∀ d ∈ s.connects, d = destOf P.template
  once : s.connects.length ≤ 1

theorem relayed_of_reach (hM : P.module.Undoes) (hsp : P.module.Speaks P.bindPort) (hd : isDnsQuery P.template = false)
    (happ : EndsOnce P.appIn) (hdst : EndsOnce P.dstIn) (hr : (relay P).Reachable s) : Relayed P s := by
  obtain ⟨up, down, h⟩ := refines_of_reach hM hsp hd hr
  have hstreams := streams_of_reach happ hdst hr
  refine ⟨⟨up.queue.flatten ++ delivered s.appIn, ?_⟩, ⟨down.queue.flatten ++ delivered s.dstIn, ?_⟩, h.routed, ?_, ?_⟩
  · rw [h.dstOut, ← List.append_assoc, up.lossless, ← h.appRead, hstreams.app]
  · rw [h.appOut, ← List.append_assoc, down.lossless, ← h.dstRead, hstreams.dst]
  · intro d hd
    rw [h.connects] at hd
    exact h.nextHop d (by simpa using hd)
  · rw [h.connects]
    cases s.nextHopConn <;> simp

end

end SnakeSocks.Tunnel

namespace SnakeSocks.Socks5

open ByteLib CMem Frames
open Sio (Sock delivered takes sendnEx_fails sendnEx_ok)
open Tunnel (relay Setup State EndsOnce isDnsQuery destOf Dest numericHost)

/-- What `quick_connect` is given stands for this IPv4 address and port. -/
def AtAddress (dest : Dest) (bytes : Vector UInt8 4) (port : UInt16) : Prop :=
  numericHost dest.1 = some (.v4 bytes) ∧ dest.2 = port

section
variable {junk : Nat → UInt8} {s s' : Sock} {d t : Bytes}

theorem sendnEx_inp {bs : Bytes} (h : Sio.sendnEx bs s = .ok () s') : s'.inp = s.inp := by
  cases ht : takes s.outp bs.length with
  | true =>
    obtain ⟨s₁, e₁, i₁, -⟩ := sendnEx_ok ht
    rw [e₁] at h
    cases h
    exact i₁
  | false =>
    obtain ⟨s₁, w, e₁, -⟩ := sendnEx_fails ht
    rw [e₁] at h
    cases h

/-- A greeting that was answered is behind. -/
theorem handshakePkgs_rest (hd : delivered s.inp = d) (h : handshakePkgs s = .ok () s') :
    delivered s'.inp = d.drop (2 + (d.getD 1 0).toNat) := by
  have hg : GreetingComplete d := by
    by_contra hg
    by_cases ho : GreetingOverruns d
    · obtain ⟨s₁, e₁⟩ := handshakePkgs_overruns hd ho
      rw [e₁] at h
      cases h
    · obtain ⟨what, s₁, e₁, -⟩ := handshakePkgs_rejects hd hg ho
      rw [e₁] at h
      cases h
  obtain ⟨s₁, d₁, -, -, e₁⟩ := handshakePkgs_complete hd hg
  rw [e₁] at h
  rw [sendnEx_inp h, d₁]

/-- So is a request that was accepted. -/
theorem connectPkgs_rest (hd : delivered s.inp = t) {m : Nat} (hm : Parsable t m) (hc : t.getD 1 0 = 1) {a : AddrInfo}
    (h : connectPkgs junk s = .ok a s') : delivered s'.inp = t.drop m := by
  obtain ⟨s₁, d₁, -, -, e₁⟩ := @connectPkgs_complete s t junk m hd hm hc
  rw [e₁] at h
  obtain ⟨u, s₂, e₂, h⟩ := Effects.of_bind_eq_ok h
  cases h
  rw [sendnEx_inp e₂, d₁]

theorem atAddress_template {bs : Bytes} {port : UInt16} (h : bs.length = 4) :
    AtAddress (destOf (ipTemplate ⟨.ipv4, bs, port⟩)) (ip4 bs) port := by
  rw [AtAddress, destOf, ipTemplate, numericHost_ip16_short h]
  exact ⟨rfl, rfl⟩

end

/-- A greeting, a CONNECT to 10.0.0.7:80 and two bytes. -/
def shortTalk : Sock := ⟨[.data [5, 1, 0], .data [5, 1, 0, 1, 10, 0, 0, 7, 0, 80], .data [1, 2]], [.wrote 2, .wrote 10], []⟩

/-- What is left of a socket behind the code that used it. -/
def leftOf {α : Type} (r : EStateM.Result Sio.Stop Sock α) : Option (α × List Sio.RecvEv) :=
  match r with
  | .ok a s => some (a, s.inp)
  | .error _ _ => none

theorem of_leftOf {α : Type} {r : EStateM.Result Sio.Stop Sock α} {a : α} {evs : List Sio.RecvEv}
    (h : leftOf r = some (a, evs)) : ∃ s, r = .ok a s ∧ s.inp = evs := by
  cases r with
  | ok b s =>
    cases h
    exact ⟨s, rfl, rfl⟩
  | error e s => cases h

end SnakeSocks.Socks5
