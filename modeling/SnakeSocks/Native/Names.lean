import SnakeSocks.Native.Classify
import SnakeSocks.Native.EndToEnd

/-!
# From the application to a destination it knows by name

A name takes a round trip before the two loops carry anything: `dns_pkgs` (`socks5.cc:266-300`) sends it as the first packet of
the tunnel, the server's loop answers that packet with what its resolver says (`tunnel.cc:208-226`), and the template is made of
the answer. `name_end_to_end` puts this in front of the relay.

`dns_pkgs` also logs the name at the debug level (`socks5.cc:272`), and the line is a format string: `loggedDnsPkgs`.
-/

namespace SnakeSocks.Tunnel

open ByteLib CMem Frames
open NetLib (maxPacket)
open Socks5 (AddrInfo)

/-- Packets that the other end takes. -/
structure Module.Fits (M : Module) : Prop where
  client : ∀ q : ClientQuery, q.payload.length.toNat ≤ 1024 → (M.clientEncode q).length.toNat ≤ maxPacket
  server : ∀ q : ClientQuery, q.payload.length.toNat ≤ 1024 → (M.serverEncode q).length.toNat ≤ maxPacket

theorem fits_simpleProxy (junk : Nat → UInt8) (stack : ClientQuery) (conn : ConnectInfo) :
    (simpleProxy junk stack conn).Fits := by
  have key : ∀ q : ClientQuery, q.payload.length.toNat ≤ 1024 →
      ((simpleProxy junk stack conn).clientEncode q).length.toNat ≤ maxPacket := by
    intro q hq
    rw [(simpleProxy_brings junk stack conn (q := q) (by omega)).1, maxPacket]
    omega
  exact ⟨key, key⟩

theorem fits_seProxy (junk : Junk) (stack : ClientQuery) (pass : BinarySafeString) {cli srv : SymPassphrase}
    (hkey : cli.key = srv.key) : (seProxy junk stack pass cli srv).Fits :=
  ⟨fun _ hq => (seProxy_brings junk stack pass hkey hq).1.2.trans (by decide),
    fun _ hq => (seProxy_brings junk stack pass hkey.symm hq).1.2.trans (by decide)⟩

/-! ## The question and the answer -/

/-- The first bytes of the tunnel, for a name. -/
def question (M : Module) (a : AddrInfo) : Bytes := frame 4 (dnsPacket M a).bytes

def answerPacket (M : Module) (a : AddrInfo) (A : IpAddress) : BinarySafeString :=
  M.serverEncode (dnsResponse (M.received (dnsPacket M a)) A)

/-- What comes back when the resolver says `A`. -/
def answer (M : Module) (a : AddrInfo) (A : IpAddress) : Bytes := frame 4 (answerPacket M a A).bytes

theorem payload_dnsResponse (q : ClientQuery) (A : IpAddress) : (dnsResponse q A).payload.length.toNat = 0 := by
  cases A <;> rfl

section
variable {M : Module} {a : AddrInfo} {A : IpAddress}

theorem received_question (hM : M.Undoes) (hlen : 33 + a.data.length ≤ 1024) :
    (M.received (dnsPacket M a)).Same a.makeDnsQueryBody := by
  rw [Module.received, dnsPacket_eq]
  refine hM.client _ ?_
  rw [(makeDnsQueryBody_payload (by omega)).1]
  exact hlen

/-- A round of the server's loop on the question. -/
theorem server_answers {P : Setup} {s : State} (hM : P.module.Undoes) (hfit : P.module.Fits) (hnul : 0 ∉ a.data)
    (hlen : 33 + a.data.length ≤ 1024) (hres : P.resolve a.data = .ok A) {rest : Bytes}
    (hc : s.c2s = question P.module a ++ rest) :
    serverConn P s = .ok { s with c2s := rest, s2c := s.s2c ++ answer P.module a A } := by
  obtain ⟨hdns, hname⟩ := getDomain_same hnul (by omega) (received_question hM hlen)
  have hq : (dnsPacket P.module a).length.toNat ≤ maxPacket := by
    rw [dnsPacket_eq]
    refine hfit.client _ ?_
    rw [(makeDnsQueryBody_payload (by omega)).1]
    exact hlen
  have hrecv := Socks5.recvLengthAndPacket_whole hq rest
  have hsend : sendLengthAndPacket (answerPacket P.module a A) = .ok (answer P.module a A) := by
    have hle : ¬(answerPacket P.module a A).length.toNat > 64 * 1024 * 1024 :=
      Nat.not_lt.2 (hfit.server _ (by rw [payload_dnsResponse]; omega))
    rw [sendLengthAndPacket, if_neg hle, lengthAndPacket_eq]
    rfl
  simp only [Module.received] at hdns hname
  simp only [answerPacket, Module.received] at hsend
  rw [serverConn, hc, question, hrecv, ok_bind]
  simp only [hdns, if_true, hname, hres, ok_bind, hsend]
  rfl

end

end SnakeSocks.Tunnel

namespace SnakeSocks.Socks5

open ByteLib CMem Frames NetLib
open Effects (bind_of_ok)
open Sio (Sock delivered)
open Tunnel (IpAddress Module relay Setup State EndsOnce question answer answerPacket dnsPacket dnsResponse isDnsQuery destOf
  numericHost_v4)

/-- `debug` is whether the log takes lines of that level. -/
def loggedDnsPkgs (debug : Bool) (M : Module) (rawAddr : AddrInfo) : Io AddrInfo := do
  if rawAddr.type ≠ .domain then
    return rawAddr
  else
    if debug then ofExcept ((Rlib.logged rawAddr.print).mapError .exn)
    dnsPkgs M rawAddr

section
variable {M : Module} {a : AddrInfo} {A : IpAddress}

/-- The log is quiet, or the name has no placeholder in it. -/
theorem loggedDnsPkgs_eq {debug : Bool} (hlog : debug = true → Rlib.places none a.print.toList = 0) (p : Proc) :
    loggedDnsPkgs debug M a p = dnsPkgs M a p := by
  unfold loggedDnsPkgs
  by_cases hdom : a.type ≠ .domain
  · rw [if_pos hdom, dnsPkgs, if_pos hdom]
  · rw [if_neg hdom]
    cases debug with
    | false => rfl
    | true =>
      rw [if_pos rfl, Rlib.logged_of_places (hlog rfl)]
      rfl

/-- A receive leaves what was sent as it is. -/
theorem recvnEx_sent {blk buf : Cells} {off n : Nat} {s s' : Sock} (h : Sio.recvnEx blk off n s = .ok buf s') :
    s'.sent = s.sent := by
  unfold Sio.recvnEx at h
  split at h
  · cases h
    rfl
  · cases h
  · cases h

theorem recvBytes_sent {n : Nat} {bs : Bytes} {p p' : Proc} (h : recvBytes n p = .ok bs p') :
    p'.sock.sent = p.sock.sent := by
  unfold recvBytes onSock at h
  split at h
  · next hx =>
    cases h
    obtain ⟨buf, s₁, e₁, e₂⟩ := Effects.of_bind_eq_ok hx
    unfold Sio.liftMem at e₂
    split at e₂
    · cases e₂
      exact recvnEx_sent e₁
    · cases e₂
  · cases h

theorem recvDnsReply_sent {b : BinarySafeString} {p p' : Proc} (h : recvDnsReply p = .ok b p') :
    p'.sock.sent = p.sock.sent := by
  unfold recvDnsReply recvLength at h
  obtain ⟨n, p₁, e₁, h⟩ := Effects.of_bind_eq_ok h
  obtain ⟨bs, p₂, e₂, e₁⟩ := Effects.of_bind_eq_ok e₁
  cases e₁
  unfold recvBody at h
  rw [allocate_bind] at h
  obtain ⟨body, p₃, e₃, h⟩ := Effects.of_bind_eq_ok h
  cases h
  have hlength := recvBytes_sent e₂
  rw [recvBytes_sent e₃]
  exact hlength

/-- `dns_pkgs` sends the question and reads the answer. -/
theorem dnsPkgs_asks {p : Proc} {rest : Bytes} (hdom : a.type = .domain)
    (hfit : (answerPacket M a A).length.toNat ≤ maxPacket) (hwill : willing p.sock.outp (question M a).length = true)
    (hin : delivered p.sock.inp = answer M a A ++ rest) :
    ∃ p', dnsPkgs M a p = ofExcept (goodAddr a (M.clientDecode (.ofBlock (answerPacket M a A).bytes))) p' ∧
      p'.sock.sent = p.sock.sent ++ question M a ∧ delivered p'.sock.inp = rest := by
  have hsize : (question M a).length =
      (beBytes 4 (dnsPacket M a).length.toNat).length + ((dnsPacket M a).bytes.length + 0) := by
    rw [question, length_frame, length_beBytes, Nat.add_zero]
  rw [hsize] at hwill
  have hlen : (answerPacket M a A).bytes.length ≤ maxPacket := by rwa [BinarySafeString.length_bytes]
  obtain ⟨p₁, e₁, i₁, w₁⟩ := sendBytes_willing _ hwill
  obtain ⟨p₂, e₂, i₂, -⟩ := sendBytes_willing _ w₁
  have hin₂ : delivered p₂.sock.inp = frame 4 (answerPacket M a A).bytes ++ rest := by rw [i₂, i₁, hin, answer]
  obtain ⟨p₃, e₃, d₃, -⟩ := recvLength_ok hin₂ (by simp [frame])
  rw [drop_frame] at d₃
  obtain ⟨p₄, e₄, d₄⟩ := recvBody_ok d₃ (n := (answerPacket M a A).bytes.length) (by simp)
  rw [List.take_left] at e₄
  rw [List.drop_left] at d₄
  have hreply : recvDnsReply p₂ = .ok (.ofBlock (answerPacket M a A).bytes) p₄ := by
    rw [recvDnsReply, bind_of_ok e₃, announced_frame hlen, e₄]
  have hask : exchangeDns M a p = .ok (.ofBlock (answerPacket M a A).bytes) p₄ := by
    rw [exchangeDns, ← dnsPacket, bind_of_ok e₁, bind_of_ok e₂, hreply]
  refine ⟨p₄, dnsPkgs_of_exchange hdom hask, ?_, d₄⟩
  rw [recvDnsReply_sent hreply, sendBytes_frames e₂, sendBytes_frames e₁, List.append_assoc, question, frame,
    BinarySafeString.length_bytes]

theorem toList_of_v4 {ip : Vector UInt8 16} (hz : (ip.toList.drop 4).all (· = 0) = true) :
    ip.toList = (ip4 ip.toList).toList ++ List.replicate 12 0 := by
  have h4 : (ip4 ip.toList).toList = ip.toList.take 4 := by rw [← ip4_take, toList_ip4 (by simp)]
  have h12 : ip.toList.drop 4 = List.replicate 12 0 := by
    refine List.eq_replicate_iff.2 ⟨by simp, ?_⟩
    simpa using hz
  rw [h4, ← h12, List.take_append_drop]

/-- Sixteen bytes are told by the address they stand for. -/
theorem familyOf_injective : Function.Injective familyOf := by
  intro ip ip' h
  by_cases hz : (ip.toList.drop 4).all (· = 0) = true
  · by_cases hz' : (ip'.toList.drop 4).all (· = 0) = true
    · rw [familyOf_v4 hz, familyOf_v4 hz'] at h
      apply Vector.toList_inj.1
      rw [toList_of_v4 hz, toList_of_v4 hz', IpAddress.v4.inj h]
    · rw [familyOf_v4 hz, familyOf_v6 hz'] at h
      cases h
  · by_cases hz' : (ip'.toList.drop 4).all (· = 0) = true
    · rw [familyOf_v6 hz, familyOf_v4 hz'] at h
      cases h
    · rw [familyOf_v6 hz, familyOf_v6 hz'] at h
      exact IpAddress.v6.inj h

/-- The template that is made of the answer. -/
theorem goodAddr_answer (hM : M.Undoes) (hport : a.port ≠ 0) (hsum : byteSum A ≠ 0) :
    ∃ resolved template, goodAddr a (M.clientDecode (.ofBlock (answerPacket M a A).bytes)) = .ok resolved ∧
      resolved.toQueryTemplate = .ok template ∧ destOf template = (textOf (wireAddress A), a.port) ∧
      isDnsQuery template = false := by
  obtain ⟨hip, -⟩ := hM.server (dnsResponse (M.received (dnsPacket M a)) A) (by rw [Tunnel.payload_dnsResponse]; omega)
  obtain ⟨hwire, hbytes⟩ := dnsResponse_address (M.received (dnsPacket M a)) A
  obtain ⟨t, ht, hp, hf⟩ := resolvedTemplate_ok a (M.clientDecode (.ofBlock (answerPacket M a A).bytes)) hport (by
    rw [answerPacket, hip, hbytes]
    exact hsum)
  obtain ⟨resolved, hgood, htempl⟩ := bind_eq_ok.1 ht
  rw [answerPacket, hip] at hf
  refine ⟨resolved, t, hgood, htempl, ?_, ?_⟩
  · rw [destOf, ipArrayToStr_eq, hf, hwire, hp]
  · rw [isDnsQuery_eq_false_iff, familyOf_injective hf]
    by_contra hall
    refine hsum (hbytes.symm.trans ((foldl_add_eq_zero_iff _).2 ?_))
    rw [sum_eq_zero_of_zeros fun b hb => by_contra fun hne => hall ⟨b, hb, hne⟩]
    exact Nat.dvd_zero _

/-- The name in an accepted request ends before its first NUL and is short. -/
theorem addrOf_name {t : Bytes} {m : Nat} (hname : t.getD 3 0 = 3) (hm : requestLen t = some m) :
    (addrOf t).type = .domain ∧ 0 ∉ (addrOf t).data ∧ (addrOf t).data.length < 128 := by
  have h1 : ¬t.getD 3 0 = 1 := by rw [hname]; decide
  have h4 : ¬t.getD 3 0 = 4 := by rw [hname]; decide
  unfold requestLen at hm
  rw [if_neg h1, if_neg h4] at hm
  unfold addrOf
  rw [if_neg h1, if_neg h4]
  refine ⟨rfl, nul_not_mem_cString _, ?_⟩
  split at hm
  · next hn =>
    have hle : (cString (slice t 5 (t.getD 4 0).toNat)).length ≤ (slice t 5 (t.getD 4 0).toNat).length :=
      (List.takeWhile_sublist _).length_le
    have hslice : (slice t 5 (t.getD 4 0).toNat).length ≤ (t.getD 4 0).toNat := by simp [slice]
    simp only
    omega
  · cases hm

end

/-- A greeting, a CONNECT to port 80 of `ab` and two bytes. -/
def namedTalk : Sock :=
  ⟨[.data [5, 1, 0], .data [5, 1, 0, 3, 2, 97, 98, 0, 80], .data [1, 2]], [.wrote 2, .wrote 9], []⟩

/-- The session of `simpleSetup`, behind that request and with some template. -/
def namedSetup (template : ClientQuery) : Setup := { Tunnel.simpleSetup with
  template, resolve := fun name => if name = [97, 98] then .ok (.v4 #v[10, 0, 0, 7]) else .error .failed }

end SnakeSocks.Socks5
