import SnakeSocks.Lib.InetText
import SnakeSocks.Module.Decoders
import SnakeSocks.Native.Address
import SnakeSocks.Native.Request

/-!
# What `sksrv` makes of a decoded query

| here | there |
| --- | --- |
| `numericHost` | the numeric syntax of `getaddrinfo`, which `quick_connect` calls (`sio.hpp:254`) |
| `Decision`, `decisionOf` | the branches of `dealConnectionImpl` (`tunnel.cc:206-242`), up to the resolver and `quick_connect` |

A query without a destination is a question about a name, and any other is data for its destination. The name is a C
string in a payload that has a length, the destination goes through a text, and nobody asks whether the decoder gave up.
`name_stays_inside_iff`, `dial_text_iff` and `short_packet_never_determined` say what follows, and `data_packet_iff` which
requests of an application have their data forwarded.
-/

namespace SnakeSocks.Tunnel

open ByteLib CMem Frames
open NetLib (maxPacket)
open Socks5 (AddrInfo familyOf familyOf_v4 familyOf_v6 textOf ipArrayToStr_eq dnsHead unpackConnectionPacket isDnsQuery_same)

/-! ## The destination as text -/

def numericHost (s : String) : Option IpAddress :=
  ((InetText.inetPton4 s.toList).map .v4).orElse fun _ => (InetText.inetPton6 s.toList).map .v6

section
open InetText

theorem toList_toString (b : UInt8) : (toString b.toNat).toList = InetText.decimal b := by
  show (Nat.repr b.toNat).toList = _
  rw [Nat.repr, InetText.decimal, String.toList_ofList]

/-- Decimal numbers between separators, as `ip_array_to_str` writes them. -/
theorem toList_join (sep : Char) (bytes : Bytes) :
    (String.intercalate (String.singleton sep) (bytes.map fun b => toString b.toNat)).toList =
      [sep].intercalate (bytes.map InetText.decimal) := by
  rw [String.toList_intercalate, List.map_map]
  congr 1
  · simp
  · apply List.map_congr_left
    intro b _
    exact toList_toString b

theorem toList_textOf_v4 (bytes : Vector UInt8 4) :
    (textOf (.v4 bytes)).toList = ['.'].intercalate (bytes.toList.map InetText.decimal) := toList_join '.' bytes.toList

theorem toList_textOf_v6 (bytes : Vector UInt8 16) :
    (textOf (.v6 bytes)).toList = [':'].intercalate (bytes.toList.map InetText.decimal) := toList_join ':' bytes.toList

theorem dot_not_mem_text (bytes : Bytes) : '.' ∉ [':'].intercalate (bytes.map InetText.decimal) := by
  intro hm
  rcases mem_intercalate hm with he | ⟨g, hg, hc⟩
  · cases he
  · obtain ⟨b, -, rfl⟩ := List.mem_map.1 hg
    exact (decimal_plain b).2.1 hc

theorem decimal_groups (bytes : Bytes) : ∀ g ∈ bytes.map InetText.decimal, g ≠ [] ∧ ':' ∉ g := by
  intro g hg
  obtain ⟨b, -, rfl⟩ := List.mem_map.1 hg
  exact ⟨(decimal_plain b).1, (decimal_plain b).2.2⟩

theorem numericHost_v4 (bytes : Vector UInt8 4) : numericHost (textOf (.v4 bytes)) = some (.v4 bytes) := by
  rw [numericHost, toList_textOf_v4, inetPton4_dotted]
  rfl

/-- Sixteen decimal groups are no address in any notation. -/
theorem numericHost_v6 (bytes : Vector UInt8 16) : numericHost (textOf (.v6 bytes)) = none := by
  rw [numericHost, toList_textOf_v6, inetPton4_of_no_dot (dot_not_mem_text _), inetPton6_many (decimal_groups _) (by simp)]
  rfl

end

/-- For all sixteen bytes: the text is read back as the address they stand for exactly when that is an IPv4 address. -/
theorem dial_text_iff (ip : Vector UInt8 16) :
    numericHost (ipArrayToStr ip) = some (familyOf ip) ↔ ∀ b ∈ ip.toList.drop 4, b = 0 := by
  rw [ipArrayToStr_eq]
  by_cases hz : (ip.toList.drop 4).all (· = 0) = true
  · rw [familyOf_v4 hz, numericHost_v4]
    exact iff_of_true rfl (by simpa using hz)
  · rw [familyOf_v6 hz, numericHost_v6]
    exact iff_of_false (by simp) (by simpa using hz)

/-- 2001:db8::7 is printed as `32:1:13:184:0:0:0:0:0:0:0:0:0:0:0:7`. -/
theorem ipv6_text_not_read : ¬∀ ip, numericHost (ipArrayToStr ip) = some (familyOf ip) := by
  intro hall
  have h := hall #v[32, 1, 13, 184, 0, 0, 0, 0, 0, 0, 0, 0, 0, 0, 0, 7]
  rw [ipArrayToStr_eq, show familyOf _ = .v6 #v[32, 1, 13, 184, 0, 0, 0, 0, 0, 0, 0, 0, 0, 0, 0, 7] from rfl,
    numericHost_v6] at h
  cases h

/-! ## The name in a question -/

section
variable {q : ClientQuery} {d tail : Bytes}

/-- A name that ends inside the payload is found, whatever the rest of the block is. -/
theorem getDomain_of_nul (hl : 32 < q.payload.length.toNat) (hb : q.payload.bytes.drop 32 = d ++ 0 :: tail) (hd : 0 ∉ d) :
    getDomainFromDnsQuery q = .ok d := by
  obtain ⟨rest, hrest⟩ : ∃ rest, q.payload.str.getD [] = q.payload.bytes ++ rest := ⟨_, (List.take_append_drop _ _).symm⟩
  have hblk : (q.payload.str.getD []).drop 32 = d ++ 0 :: (tail ++ rest) := by
    rw [hrest, List.drop_append_of_le_length (by rw [BinarySafeString.length_bytes]; omega), hb, List.append_assoc,
      List.cons_append]
  have hmem : (d ++ 0 :: (tail ++ rest)).contains 0 = true := by simp
  rw [getDomainFromDnsQuery, if_neg (by omega)]
  simp only [hblk]
  rw [if_pos hmem, cString_append_nul hd]

theorem length_dnsHead : dnsHead.length = 32 := by decide

theorem makeDnsQueryBody_payload {a : AddrInfo} (h : 33 + a.data.length < 2 ^ 32) :
    a.makeDnsQueryBody.payload.length.toNat = 33 + a.data.length ∧
      a.makeDnsQueryBody.payload.bytes = dnsHead ++ a.data ++ [0] := by
  obtain ⟨blk, hblk⟩ : ∃ blk, blk = dnsHead ++ a.data ++ [0] := ⟨_, rfl⟩
  have hlen : blk.length = 33 + a.data.length := by
    rw [hblk, List.length_append, List.length_append, length_dnsHead, List.length_singleton]
    omega
  have hpay : a.makeDnsQueryBody.payload = { BinarySafeString.ofBlock blk with nullTerminated := true } := by
    rw [hblk]
    rfl
  have hlt : blk.length < 2 ^ 32 := by omega
  have hl := BinarySafeString.ofBlock_length hlt
  have hb := BinarySafeString.ofBlock_bytes hlt
  rw [hpay, ← hblk, ← hlen]
  exact ⟨hl, hb⟩

/-- A query like the one `make_dns_query_body` made. -/
theorem getDomain_same {a : AddrInfo} (hnul : 0 ∉ a.data) (hlen : 33 + a.data.length < 2 ^ 32)
    (h : q.Same a.makeDnsQueryBody) : isDnsQuery q = true ∧ getDomainFromDnsQuery q = .ok a.data := by
  obtain ⟨hpl, hpb⟩ := makeDnsQueryBody_payload hlen
  constructor
  · rw [isDnsQuery_same h]
    show (Vector.replicate 16 0).toList.all (· = (0 : UInt8)) = true
    decide
  · obtain ⟨-, -, hl, hb⟩ := h
    have hdrop : q.payload.bytes.drop 32 = a.data ++ 0 :: [] := by
      rw [hb, hpb, List.append_assoc, List.drop_left' length_dnsHead]
    exact getDomain_of_nul (by rw [hl, hpl]; omega) hdrop hnul

end

/-- The packet of `dns_pkgs` for a name. -/
def dnsPacket (M : Module) (a : AddrInfo) : BinarySafeString :=
  clientEncode M.clientEncode a.makeDnsQueryBody.payload a.makeDnsQueryBody

/-- What the server decodes from a packet that came through the tunnel. -/
def Module.received (M : Module) (packet : BinarySafeString) : ClientQuery := M.serverDecode (.ofBlock packet.bytes)

/-- Every name that `unpackConnectionPacket` stores is free of NUL and short; and every name without a NUL, of any length
that a packet can announce, and with any port, is classified as a question and read back, if the module brings the
packet back. -/
theorem asked_name_is_resolved (M : Module) :
    (∀ (junk : Nat → UInt8) (buf : Cells) (s s' : Sio.Sock) (cmd atyp : UInt8) (a : AddrInfo), buf.length = 263 →
      unpackConnectionPacket junk buf s = .ok (cmd, atyp, a) s' → a.type = .domain →
      0 ∉ a.data ∧ 33 + a.data.length < 2 ^ 32) ∧
    ∀ a : AddrInfo, 0 ∉ a.data → 33 + a.data.length < 2 ^ 32 → (M.received (dnsPacket M a)).Same a.makeDnsQueryBody →
      isDnsQuery (M.received (dnsPacket M a)) = true ∧ getDomainFromDnsQuery (M.received (dnsPacket M a)) = .ok a.data := by
  constructor
  · intro junk buf s s' cmd atyp a hbuf hun ht
    obtain ⟨hnul, hlt⟩ := Socks5.unpack_domain hun ht
    exact ⟨hnul, by omega⟩
  · intro a hnul hlen hround
    exact getDomain_same hnul hlen hround

/-- The name is not empty, so the packet is the encoded body. -/
theorem dnsPacket_eq (M : Module) (a : AddrInfo) : dnsPacket M a = M.clientEncode a.makeDnsQueryBody := by
  unfold dnsPacket clientEncode
  split <;> rfl

theorem asked_name_is_resolved_example :
    isDnsQuery (simpleSetup.module.received (dnsPacket simpleSetup.module Socks5.exampleName)) = true ∧
      getDomainFromDnsQuery (simpleSetup.module.received (dnsPacket simpleSetup.module Socks5.exampleName)) =
        .ok Socks5.exampleName.data := by
  refine (asked_name_is_resolved simpleSetup.module).2 Socks5.exampleName (by decide) (by decide) ?_
  rw [dnsPacket_eq]
  exact Socks5.simpleSetup_round _ (by decide)

/-! ## A name in a hostile payload -/

/-- The name is found in the payload. -/
def StaysInside (q : ClientQuery) : Prop :=
  ∃ d, getDomainFromDnsQuery q = .ok d ∧ d.length ≤ q.payload.length.toNat - 32 ∧ d <+: q.payload.bytes.drop 32

section
variable {q stack : ClientQuery} {junk : Nat → UInt8}

/-- A decoder allocates the payload it copies, and not a byte more. -/
theorem str_of_unpackQuery {data : Bytes} {length : Nat} (h : unpackQuery junk stack data length = .ok q) :
    q.payload.str.getD [] = q.payload.bytes := by
  by_cases hl : length ≤ 24
  · rw [unpackQuery_short junk stack data hl] at h
    cases h
    rfl
  by_cases hin : 24 + plszField data ≤ data.length
  swap
  · rw [unpackQuery_outside junk stack (by omega) hin] at h
    cases h
  rw [unpackQuery_long junk stack (by omega) hin] at h
  cases h
  rw [unpacked_payload_bytes hin]
  by_cases hz : plszField data = 0
  · simp [unpacked, hz, BinarySafeString.null]
  · simp [unpacked, hz, BinarySafeString.ofBlock]

theorem str_of_serverDecode {junk' : Junk} {conn : ConnectInfo} {data : BinarySafeString}
    (h : SimpleProxy.serverDecode junk stack conn data = .ok q ∨ SeProxy.serverDecode junk' stack conn data = .ok q) :
    q.payload.str.getD [] = q.payload.bytes := by
  rcases h with h | h
  · exact str_of_unpackQuery h
  · obtain ⟨pw, -, h⟩ := bind_eq_ok.1 h
    obtain ⟨⟨len, tmpresult⟩, -, h⟩ := bind_eq_ok.1 h
    exact str_of_unpackQuery h

theorem staysInside_iff (h : q.payload.str.getD [] = q.payload.bytes) :
    StaysInside q ↔ q.payload.length.toNat ≤ 32 ∨ 0 ∈ q.payload.bytes.drop 32 := by
  constructor
  · rintro ⟨d, hd, -, -⟩
    by_contra hout
    rw [not_or] at hout
    have hno : (q.payload.bytes.drop 32).contains 0 = false := by simpa using hout.2
    rw [getDomainFromDnsQuery, if_neg hout.1, h] at hd
    simp only [hno, Bool.false_eq_true, if_false] at hd
    cases hd
  · intro hin
    by_cases hl : q.payload.length.toNat ≤ 32
    · refine ⟨[], ?_, Nat.zero_le _, List.nil_prefix⟩
      rw [getDomainFromDnsQuery, if_pos hl]
    · obtain ⟨d, tail, hsplit, hd⟩ := List.eq_append_cons_of_mem (hin.resolve_left hl)
      have hlen := congrArg List.length hsplit
      rw [List.length_drop, BinarySafeString.length_bytes, List.length_append] at hlen
      refine ⟨d, getDomain_of_nul (by omega) hsplit hd, by omega, ?_⟩
      rw [hsplit]
      exact List.prefix_append d _

end

/-- For both modules and every packet: the name of a decoded question is read from its payload alone exactly when the
payload has no room for one or has a NUL behind the head. -/
theorem name_stays_inside_iff (junk : Nat → UInt8) (junk' : Junk) (stack : ClientQuery) (conn : ConnectInfo)
    (data : BinarySafeString) (q : ClientQuery)
    (h : SimpleProxy.serverDecode junk stack conn data = .ok q ∨ SeProxy.serverDecode junk' stack conn data = .ok q)
    (_ : isDnsQuery q = true) : StaysInside q ↔ q.payload.length.toNat ≤ 32 ∨ 0 ∈ q.payload.bytes.drop 32 :=
  staysInside_iff (str_of_serverDecode h)

/-- Any query can be what the server decodes. -/
theorem exists_decoded (q : ClientQuery) (h : q.payload.length.toNat ≤ 64 * 1024 * 1024) : ∃ data r,
    SimpleProxy.serverDecode (fun _ => 0) Decoders.zeroStack ⟨.null false, none⟩ data = .ok r ∧ r.Same q := by
  obtain ⟨dat, r, -, hdec, hsame⟩ := @SimpleProxy.decode_encode_between (fun _ => 0) _ _ _ _ _ rfl h
  exact ⟨dat, r, hdec, hsame⟩

theorem name_stays_inside_iff_example : ∃ data q,
    SimpleProxy.serverDecode (fun _ => 0) Decoders.zeroStack ⟨.null false, none⟩ data = .ok q ∧ isDnsQuery q = true ∧
      StaysInside q := by
  obtain ⟨data, q, hdec, hsame⟩ := exists_decoded Socks5.exampleName.makeDnsQueryBody (by decide)
  have hdns : isDnsQuery q = true := (isDnsQuery_same hsame).trans (by decide)
  refine ⟨data, q, hdec, hdns, ?_⟩
  refine (name_stays_inside_iff _ (fun _ _ => 0) _ _ data q (.inl hdec) hdns).2 (.inr ?_)
  rw [hsame.2.2.2]
  decide

/-- A question of 33 bytes without a NUL. -/
def openQuestion : ClientQuery := ⟨Vector.replicate 16 0, 0, .ofBlock (dnsHead ++ [97])⟩

theorem unterminated_name_read_outside :
    ¬∀ (data : BinarySafeString) (q : ClientQuery),
      SimpleProxy.serverDecode (fun _ => 0) Decoders.zeroStack ⟨.null false, none⟩ data = .ok q → isDnsQuery q = true →
      StaysInside q := by
  intro hall
  obtain ⟨data, q, hdec, hsame⟩ := exists_decoded openQuestion (by decide)
  have hin := hall data q hdec ((isDnsQuery_same hsame).trans (by decide))
  have hstr := @str_of_serverDecode q _ _ (fun _ _ => 0) _ _ (.inl hdec)
  rcases (staysInside_iff hstr).1 hin with hl | h0
  · rw [hsame.2.2.1] at hl
    exact absurd hl (by decide)
  · rw [hsame.2.2.2] at h0
    exact absurd h0 (by decide)

/-! ## Packets that are too short -/

/-- What one packet makes the server do: look a name up, or connect to an address and port if there is no connection. A
name that runs out of its block is `none`. -/
inductive Decision where
  | resolve (domain : Option Bytes)
  | connect (dest : Dest)
deriving DecidableEq

def decisionOf (q : ClientQuery) : Decision :=
  if isDnsQuery q then .resolve (getDomainFromDnsQuery q).toOption else .connect (destOf q)

/-- A decoder gives the same query whatever its stack holds. -/
def Determined (decode : ClientQuery → Except Fault ClientQuery) : Prop :=
  ∃ q, ∀ stack, ∃ r, decode stack = .ok r ∧ r.Same q

/-- The server does the same whatever the decoder's stack holds. -/
def Decided (decode : ClientQuery → Except Fault ClientQuery) : Prop :=
  ∃ d, ∀ stack, ∃ r, decode stack = .ok r ∧ decisionOf r = d

/-- What an earlier call may have left on the stack. -/
def usedStack : ClientQuery := ⟨ip16 [10, 0, 0, 7], 80, .null false⟩

section
variable {decode : ClientQuery → Except Fault ClientQuery}

/-- The query is the one on the stack, without a payload. -/
def GivesUp (decode : ClientQuery → Except Fault ClientQuery) : Prop :=
  ∀ stack, decode stack = .ok { stack with payload := .null stack.payload.nullTerminated }

theorem GivesUp.not_determined (h : GivesUp decode) : ¬Determined decode := by
  rintro ⟨q, hq⟩
  obtain ⟨r, hr, hsame⟩ := hq Decoders.zeroStack
  obtain ⟨r', hr', hsame'⟩ := hq usedStack
  rw [h] at hr hr'
  cases hr
  cases hr'
  have hip : Decoders.zeroStack.destinationIp = usedStack.destinationIp := hsame.1.trans hsame'.1.symm
  exact absurd hip (by decide)

/-- With zeroes on the stack it is a question, with an address it is data. -/
theorem GivesUp.not_decided (h : GivesUp decode) : ¬Decided decode := by
  rintro ⟨d, hd⟩
  obtain ⟨r, hr, hres⟩ := hd Decoders.zeroStack
  obtain ⟨r', hr', hcon⟩ := hd usedStack
  rw [h] at hr hr'
  cases hr
  cases hr'
  have hsame := hres.trans hcon.symm
  exact absurd hsame (by decide)

theorem not_determined_of_fault {f : Fault} (h : ∀ stack, decode stack = .error f) : ¬Determined decode ∧ ¬Decided decode := by
  constructor
  · rintro ⟨q, hq⟩
    obtain ⟨r, hr, -⟩ := hq Decoders.zeroStack
    rw [h] at hr
    cases hr
  · rintro ⟨d, hd⟩
    obtain ⟨r, hr, -⟩ := hd Decoders.zeroStack
    rw [h] at hr
    cases hr

end

theorem givesUp_simple (junk : Nat → UInt8) (conn : ConnectInfo) {data : BinarySafeString} (h : data.length.toNat ≤ 24) :
    GivesUp (SimpleProxy.decode junk · conn data) := by
  intro stack
  exact unpackQuery_short junk stack _ h

theorem givesUp_se (junk : Junk) (pass : BinarySafeString) (pw : SymPassphrase) {data : BinarySafeString}
    (h16 : 16 ≤ data.length.toNat) (h : SeProxy.plainLength pw data ≤ 24) :
    GivesUp (SeProxy.decode junk · ⟨pass, some pw⟩ data) := by
  intro stack
  simp only [SeProxy.decode_eq junk stack pass pw data h16]
  exact unpackQuery_short _ stack _ h

/-- No packet of at most 24 decoded bytes determines what its decoder returns, or what the server then does: `simple_proxy`
hands out its stack, and so does `se_proxy`, which reads outside the packet if that is shorter than a cipher block. -/
theorem short_packet_never_determined (junk : Junk) (conn : ConnectInfo) (pass : BinarySafeString) (pw : SymPassphrase)
    (data : BinarySafeString) :
    (data.length.toNat ≤ 24 →
      (¬Determined (SimpleProxy.serverDecode (junk 0) · conn data) ∧ ¬Decided (SimpleProxy.serverDecode (junk 0) · conn data)) ∧
      ¬Determined (SimpleProxy.clientDecode (junk 0) · conn data)) ∧
    (data.length.toNat < 16 ∨ SeProxy.plainLength pw data ≤ 24 →
      (¬Determined (SeProxy.serverDecode junk · ⟨pass, some pw⟩ data) ∧
        ¬Decided (SeProxy.serverDecode junk · ⟨pass, some pw⟩ data)) ∧
      ¬Determined (SeProxy.clientDecode junk · ⟨pass, some pw⟩ data)) := by
  constructor
  · intro h
    have hup := givesUp_simple (junk 0) conn h
    exact ⟨⟨hup.not_determined, hup.not_decided⟩, hup.not_determined⟩
  · intro h
    by_cases h16 : data.length.toNat < 16
    · have hfault : ∀ stack, SeProxy.decode junk stack ⟨pass, some pw⟩ data = .error .readOutside :=
        fun stack => SeProxy.decode_short junk stack pass pw data h16
      exact ⟨not_determined_of_fault hfault, (not_determined_of_fault hfault).1⟩
    · have hup := givesUp_se junk pass pw (by omega) (h.resolve_left h16)
      exact ⟨⟨hup.not_determined, hup.not_decided⟩, hup.not_determined⟩

/-- A packet of one byte. -/
theorem short_packet_never_determined_one_byte :
    ¬Determined (SimpleProxy.serverDecode (fun _ => 0) · ⟨.null false, none⟩ (.ofBlock [0])) ∧
      ¬Determined (SeProxy.serverDecode (fun _ _ => 0) · ⟨.null false, some ⟨0, [], by decide⟩⟩ (.ofBlock [0])) := by
  have h := short_packet_never_determined (fun _ _ => 0) ⟨.null false, none⟩ (.null false) ⟨0, [], by decide⟩ (.ofBlock [0])
  exact ⟨(h.1 (by decide)).1.1, (h.2 (.inl (by decide))).1.1⟩

/-- The same byte is a question about the empty name, or opens a connection to 10.0.0.7:80. -/
theorem one_byte_two_decisions : ∃ r r',
    SimpleProxy.serverDecode (fun _ => 0) Decoders.zeroStack ⟨.null false, none⟩ (.ofBlock [0]) = .ok r ∧
      SimpleProxy.serverDecode (fun _ => 0) usedStack ⟨.null false, none⟩ (.ofBlock [0]) = .ok r' ∧
      ¬r.Same r' ∧ decisionOf r = .resolve (some []) ∧ decisionOf r' = .connect (ipArrayToStr (ip16 [10, 0, 0, 7]), 80) := by
  have hup : GivesUp (SimpleProxy.serverDecode (fun _ => 0) · ⟨.null false, none⟩ (.ofBlock [0])) :=
    givesUp_simple _ _ (by decide)
  refine ⟨_, _, hup Decoders.zeroStack, hup usedStack, ?_, rfl, rfl⟩
  intro hsame
  exact absurd hsame.1 (by decide)

/-! ## Data packets -/

/-- What a round of the server does with a packet that is the next frame: it goes over the connection of the session, and if
there is none, one is made by a text that stands for `A`. Nothing is resolved and nothing sent back. -/
structure Forwarded (P : Setup) (packet : BinarySafeString) (A : IpAddress) (port : UInt16) (payload : Bytes) : Prop where
  isData : isDnsQuery (P.module.received packet) = false
  text : numericHost (destOf (P.module.received packet)).1 = some A
  port : (destOf (P.module.received packet)).2 = port
  dials : ∀ (s : State) (rest : Bytes), s.c2s = frame 4 packet.bytes ++ rest → packet.length.toNat ≤ maxPacket →
    s.nextHopConn = none → serverConn P s = (P.dial (destOf (P.module.received packet))).map fun _ =>
      { s with c2s := rest, nextHopConn := some (destOf (P.module.received packet)),
               connects := s.connects ++ [destOf (P.module.received packet)],
               dstLog := s.dstLog ++ [(destOf (P.module.received packet), payload)] }
  goesOn : ∀ (s : State) (rest : Bytes) (dest : Dest), s.c2s = frame 4 packet.bytes ++ rest →
    packet.length.toNat ≤ maxPacket → s.nextHopConn = some dest →
      serverConn P s = .ok { s with c2s := rest, dstLog := s.dstLog ++ [(dest, payload)] }

section
variable {P : Setup} {packet : BinarySafeString} {q : ClientQuery} {A : IpAddress}

/-- A packet that decodes to a query with a destination is forwarded to what its text stands for. -/
theorem forwarded_of (hsame : (P.module.received packet).Same q) (hdata : isDnsQuery q = false)
    (htext : numericHost (destOf q).1 = some A) : Forwarded P packet A q.destinationPort q.payload.bytes := by
  have hdns : isDnsQuery (P.module.received packet) = false := (isDnsQuery_same hsame).trans hdata
  obtain ⟨hip, hport, -, hbytes⟩ := hsame
  have hdest : destOf (P.module.received packet) = destOf q := by rw [destOf, destOf, hip, hport]
  refine ⟨hdns, by rwa [hdest], by rw [hdest]; rfl, ?_, ?_⟩
  · intro s rest hc hl hn
    have hrecv := Socks5.recvLengthAndPacket_whole hl rest
    simp only [Module.received] at hdns hbytes ⊢
    rw [serverConn, hc, hrecv, ok_bind]
    simp only [hdns, Bool.false_eq_true, if_false, hn, hbytes]
    cases P.dial (destOf (P.module.serverDecode (.ofBlock packet.bytes))) <;> rfl
  · intro s rest dest hc hl hn
    have hrecv := Socks5.recvLengthAndPacket_whole hl rest
    simp only [Module.received] at hdns hbytes
    simp only [serverConn, hc, hrecv, ok_bind, hdns, Bool.false_eq_true, if_false, hn, hbytes, pure_eq_ok]

/-- No text of `ip_array_to_str` stands for an IPv6 address. -/
theorem numericHost_ne_v6 (ip bytes : Vector UInt8 16) : numericHost (ipArrayToStr ip) ≠ some (.v6 bytes) := by
  rw [ipArrayToStr_eq]
  cases familyOf ip with
  | v4 bytes => rw [numericHost_v4]; simp
  | v6 bytes => rw [numericHost_v6]; simp

end

end SnakeSocks.Tunnel

namespace SnakeSocks.Socks5

open ByteLib CMem Sio
open Tunnel (IpAddress Forwarded destOf forwarded_of numericHost numericHost_v4 numericHost_ne_v6 isDnsQuery)

/-- The address that a request names. -/
def AddrInfo.asked (a : AddrInfo) : IpAddress := if a.type = .ipv4 then .v4 (ip4 a.data) else .v6 (ip16 a.data)

theorem numericHost_ip16_short {bs : Bytes} (h : bs.length = 4) :
    numericHost (Tunnel.ipArrayToStr (ip16 bs)) = some (.v4 (ip4 bs)) := by
  rw [ipArrayToStr_eq, familyOf_ip16_short h, numericHost_v4]

/-- For every accepted CONNECT to an IPv4 or IPv6 address and a port other than 0, every payload and every module that
brings this one query back: the server takes the packet for data exactly when the address is not all zeros, and it
forwards the payload to the requested address and port exactly when that is an IPv4 address as well. -/
theorem data_packet_iff {P : Tunnel.Setup} {junk : Nat → UInt8} {s s' : Sock} {t : Bytes} {a : AddrInfo}
    (hd : delivered s.inp = t) (hacc : connectPkgs junk s = .ok a s') (hip : t.getD 3 0 = 1 ∨ t.getD 3 0 = 4)
    (hport : a.port ≠ 0) (payload : BinarySafeString) (p : NetLib.Proc)
    (hround : (P.module.received (P.module.clientEncode (dataQuery payload (ipTemplate a)))).Same
      (dataQuery payload (ipTemplate a))) :
    a = addrOf t ∧ ∃ packet, dataPacket P.module a payload p = .ok packet p ∧
      (isDnsQuery (P.module.received packet) = false ↔ ∃ b ∈ a.data, b ≠ 0) ∧
      (Forwarded P packet a.asked a.port payload.bytes ↔ t.getD 3 0 = 1 ∧ ∃ b ∈ a.data, b ≠ 0) := by
  obtain ⟨m, ⟨hm, hl, -⟩, -, ha⟩ := connectPkgs_accepted hd hacc
  have hshape : (a.type = .ipv4 ∧ a.data.length = 4) ∨ (a.type = .ipv6 ∧ a.data.length = 16) := by
    rw [ha]
    exact addrOf_ip hip hm hl
  have hlen : a.data.length = 4 ∨ a.data.length = 16 := hshape.imp And.right And.right
  obtain ⟨hqip, hqport⟩ := dataQuery_dest payload a
  have hzero : isDnsQuery (dataQuery payload (ipTemplate a)) = false ↔ ∃ b ∈ a.data, b ≠ 0 := by
    rw [isDnsQuery_eq_false_iff, hqip, exists_ip16_ne_zero hlen]
  have htype : t.getD 3 0 = 1 ↔ a.type = .ipv4 := by
    rw [ha, addrOf]
    rcases hip with h1 | h4
    · rw [if_pos h1]
      exact iff_of_true h1 rfl
    · rw [if_neg (by rw [h4]; decide), if_pos h4, h4]
      exact iff_of_false (by decide) (by simp)
  have hdest : destOf (dataQuery payload (ipTemplate a)) = (Tunnel.ipArrayToStr (ip16 a.data), a.port) := by
    rw [destOf, hqip, hqport]
  refine ⟨ha, _, dataPacket_ip P.module payload p hshape hport, ?_, ?_⟩
  · rw [isDnsQuery_same hround, hzero]
  · rw [← hzero, htype]
    constructor
    · intro h
      refine ⟨?_, (isDnsQuery_same hround).symm.trans h.isData⟩
      by_contra hv6
      -- an IPv6 address, and the text stands for no such
      have htext := h.text
      rw [AddrInfo.asked, if_neg hv6, destOf] at htext
      exact numericHost_ne_v6 _ _ htext
    · rintro ⟨hv4, hdata⟩
      have hfour : a.data.length = 4 := by
        rcases hshape with ⟨-, h4⟩ | ⟨hv6, -⟩
        · exact h4
        · rw [hv4] at hv6
          cases hv6
      have htext : numericHost (destOf (dataQuery payload (ipTemplate a))).1 = some a.asked := by
        rw [hdest, numericHost_ip16_short hfour, AddrInfo.asked, if_pos hv4]
      have hforward := forwarded_of hround hdata htext
      rwa [hqport, dataQuery_payload] at hforward

theorem data_packet_iff_unicast : ∃ packet, dataPacket Tunnel.simpleSetup.module ⟨.ipv4, [10, 0, 0, 7], 80⟩ (.ofBlock [71])
    ⟨⟨[], [], []⟩, []⟩ = .ok packet ⟨⟨[], [], []⟩, []⟩ ∧
      Forwarded Tunnel.simpleSetup packet (.v4 #v[10, 0, 0, 7]) 80 [71] := by
  have hround := simpleSetup_round (dataQuery (.ofBlock [71]) (ipTemplate ⟨.ipv4, [10, 0, 0, 7], 80⟩)) (by decide)
  obtain ⟨s', hacc⟩ := connectTo_accepted 10 0 0 7
  obtain ⟨-, packet, hp, -, hiff⟩ := @data_packet_iff Tunnel.simpleSetup (fun _ => 0) (connectTo 10 0 0 7) s' _
    ⟨.ipv4, [10, 0, 0, 7], 80⟩ rfl hacc (by decide) (by decide) (.ofBlock [71]) ⟨⟨[], [], []⟩, []⟩ hround
  exact ⟨packet, hp, hiff.2 ⟨rfl, 10, by decide, by decide⟩⟩

/-- A CONNECT to 0.0.0.0 is accepted, and its data is taken for a DNS query. -/
theorem unspecified_taken_for_dns : ∃ a s' packet, connectPkgs (fun _ => 0) (connectTo 0 0 0 0) = .ok a s' ∧
    a.type = .ipv4 ∧ a.port = 80 ∧
    dataPacket Tunnel.simpleSetup.module a (.ofBlock [71]) ⟨⟨[], [], []⟩, []⟩ = .ok packet ⟨⟨[], [], []⟩, []⟩ ∧
    isDnsQuery (Tunnel.simpleSetup.module.serverDecode (.ofBlock packet.bytes)) = true := by
  obtain ⟨s', hacc⟩ := connectTo_accepted 0 0 0 0
  refine ⟨⟨.ipv4, [0, 0, 0, 0], 80⟩, s', _, hacc, rfl, rfl,
    dataPacket_ip Tunnel.simpleSetup.module (.ofBlock [71]) _ (.inl ⟨rfl, rfl⟩) (by decide), ?_⟩
  have hround := simpleSetup_round (dataQuery (.ofBlock [71]) (ipTemplate ⟨.ipv4, [0, 0, 0, 0], 80⟩)) (by decide)
  exact (isDnsQuery_same hround).trans (by decide)

end SnakeSocks.Socks5
