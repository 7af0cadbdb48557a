import SnakeSocks.Go.Session
import SnakeSocks.Native.Classify

/-!
# The first packet, read by the native server and by the Go server

| here | there |
| --- | --- |
| `nativeVerdict` | `dealConnectionImpl` (`native/src/tunnel.cc:206-242`) on a session without a destination |
| `goVerdict` | `checkFirst` and `dial` (`server.go:149-218`), from the session of `Go/Session.lean` |
| `netIP` | `net.IP(ip).String()` and `net.Dial` of it |

The native server takes a zero address for a question, the Go server the 32-byte head; one reads the name as a C string and
the other to the end of the payload; one takes twelve zeros at the end for IPv4 and the other an IPv4-mapped prefix; and the Go
server still swaps the port, which `CHANGELOG.md` ended with v1.4.0. There is no packet on which they agree
(`servers_never_agree`).
-/

namespace SnakeSocks.Go

open ByteLib
open Tunnel (IpAddress Decision decisionOf isDnsQuery getDomainFromDnsQuery ipArrayToStr numericHost numericHost_v4
  numericHost_v6 makeDnsQueryBody_payload)
open Socks5 (AddrInfo dataQuery ipTemplate familyOf familyOf_v4 familyOf_v6 ip4 ipArrayToStr_eq isDnsQuery_eq_false_iff
  isDnsQuery_same)

/-! ## First packets -/

/-- The packets `skcli` can send first: a question about any name, or data for an address and a port that are not zero. -/
inductive FirstPacket where
  | dns (a : AddrInfo) (fits : 33 + a.data.length < 2 ^ 32)
  | data (a : AddrInfo) (shape : (a.type = .ipv4 ∧ a.data.length = 4) ∨ (a.type = .ipv6 ∧ a.data.length = 16))
    (nonzero : ∃ b ∈ a.data, b ≠ 0) (port : a.port ≠ 0) (payload : BinarySafeString)

def FirstPacket.query : FirstPacket → ClientQuery
  | dns a _ => a.makeDnsQueryBody
  | data a _ _ _ payload => dataQuery payload (ipTemplate a)

/-- The packet as the native server decodes it. -/
def FirstPacket.atNative (M : Tunnel.Module) (f : FirstPacket) : ClientQuery :=
  M.received (M.clientEncode f.query)

/-- The packet as the Go server decodes it: `ReadB` leaves a NUL behind it. -/
def FirstPacket.atGo (M : Tunnel.Module) (f : FirstPacket) : ClientQuery :=
  M.serverDecode (NetLib.cgoString (M.clientEncode f.query).bytes)

/-- The module brings the query back at both servers. -/
structure Arrives (M : Tunnel.Module) (f : FirstPacket) : Prop where
  native : (f.atNative M).Same f.query
  go : (f.atGo M).Same f.query

/-! ## Verdicts -/

/-- What a server does with it. An address is `none` if the text for it is no numeric address. -/
inductive Verdict where
  | lookup (domain : Bytes)
  | dial (address : Option IpAddress) (port : UInt16)

/-- `host` says which address a text given to `quick_connect` stands for. -/
def nativeVerdict (host : String → Option IpAddress) (q : ClientQuery) : Option Verdict :=
  match decisionOf q with
  | .resolve domain => domain.map .lookup
  | .connect (addr, port) => some (.dial (host addr) port)

/-- `To4` of sixteen bytes: an IPv4-mapped address is that IPv4 address. -/
def netIP (ip : Vector UInt8 16) : IpAddress :=
  if ip.toList.take 12 = List.replicate 10 0 ++ [255, 255] then .v4 (ip4 (ip.toList.drop 12)) else .v6 ip

def Query.ofClient (q : ClientQuery) : Query := ⟨q.destinationIp, q.destinationPort, q.payload.bytes⟩

def ProxyPc.verdict : ProxyPc → Option Verdict
  | .lookup domain => some (.lookup domain)
  | .feed (.dial q) => some (.dial (some (netIP (dialAddr q).1)) (dialAddr q).2)
  | _ => none

def goVerdict (q : Query) : Option Verdict := (ProxyPc.ofFirst none q).verdict

/-- The text of `ip_array_to_str` read as it is meant: sixteen decimal groups are sixteen bytes. -/
def meantHost (s : String) : Option IpAddress :=
  ((InetText.inetPton4 s.toList).map .v4).orElse fun _ =>
    (((s.toList.splitOn ':').mapM InetText.decByte).bind (InetText.exactly 16)).map .v6

/-- What it takes for the two to agree if the text is read so: an IPv6 address that is neither IPv4-mapped nor ends in
twelve zeros, a port of two equal bytes, and a payload that does not start with the head of a question. -/
def FirstPacket.Alike : FirstPacket → Prop
  | dns _ _ => False
  | data a _ _ _ payload => (∃ b ∈ a.data.drop 4, b ≠ 0) ∧ a.data.take 12 ≠ List.replicate 10 0 ++ [255, 255] ∧
      a.port.toNat / 256 = a.port.toNat % 256 ∧ ¬dnsHead <+: payload.bytes

/-! ## One verdict at a time -/

section
variable {q r : ClientQuery} {host : String → Option IpAddress}

theorem ofClient_same (h : r.Same q) : Query.ofClient r = Query.ofClient q := by
  obtain ⟨hip, hport, -, hbytes⟩ := h
  rw [Query.ofClient, Query.ofClient, hip, hport, hbytes]

theorem goVerdict_dns (h : dnsHead <+: q.payload.bytes) :
    goVerdict (.ofClient q) = some (.lookup (q.payload.bytes.drop 32)) := by
  rw [goVerdict, ProxyPc.ofFirst, if_pos (by exact h)]
  rfl

theorem goVerdict_data (h : ¬dnsHead <+: q.payload.bytes) : goVerdict (.ofClient q) =
    some (.dial (some (netIP q.destinationIp)) (UInt16.ofNat (beNat (leBytes 2 q.destinationPort.toNat)))) := by
  rw [goVerdict, ProxyPc.ofFirst, if_neg (by exact h)]
  rfl

theorem nativeVerdict_data (h : isDnsQuery q = false) :
    nativeVerdict host q = some (.dial (host (ipArrayToStr q.destinationIp)) q.destinationPort) := by
  rw [nativeVerdict, decisionOf, h]
  rfl

theorem nul_not_mem_domain {d : Bytes} (h : getDomainFromDnsQuery q = .ok d) : 0 ∉ d := by
  unfold getDomainFromDnsQuery at h
  split at h
  · cases h
    exact List.not_mem_nil
  · dsimp only at h
    split at h
    · cases h
      exact CMem.nul_not_mem_cString _
    · cases h

/-- The native server never looks a name up that has a NUL in it. -/
theorem nul_not_mem_lookup {d : Bytes} (h : nativeVerdict host q = some (.lookup d)) : 0 ∉ d := by
  unfold nativeVerdict decisionOf at h
  cases hdns : isDnsQuery q with
  | false =>
    rw [hdns] at h
    cases h
  | true =>
    rw [hdns] at h
    cases hd : getDomainFromDnsQuery q with
    | error e =>
      rw [hd] at h
      cases h
    | ok d' =>
      rw [hd] at h
      cases h
      exact nul_not_mem_domain hd

theorem dnsHead_eq : dnsHead = Socks5.dnsHead := by decide

/-- The Go server looks the name up together with its NUL. -/
theorem goVerdict_question {a : AddrInfo} (h : 33 + a.data.length < 2 ^ 32) :
    goVerdict (.ofClient a.makeDnsQueryBody) = some (.lookup (a.data ++ [0])) := by
  have hb := (makeDnsQueryBody_payload h).2
  rw [List.append_assoc, ← dnsHead_eq] at hb
  rw [goVerdict_dns (by rw [hb]; exact List.prefix_append _ _), hb, List.drop_left' (show dnsHead.length = 32 from rfl)]

theorem questions_differ {a : AddrInfo} (h : 33 + a.data.length < 2 ^ 32) :
    nativeVerdict host r ≠ goVerdict (.ofClient a.makeDnsQueryBody) := by
  intro he
  rw [goVerdict_question h] at he
  exact nul_not_mem_lookup he (by simp)

end

/-! ## Addresses and ports -/

theorem getD_of_zeros {l : Bytes} (h : l.all (· = 0) = true) (i : Nat) : l.getD i 0 = 0 := by
  rw [List.getD_eq_getElem?_getD]
  cases hi : l[i]? with
  | none => rfl
  | some b => simpa using List.all_eq_true.1 h b (List.mem_of_getElem? hi)

/-- Sixteen bytes that the native server dials as IPv4 are IPv6 for the Go server. -/
theorem netIP_of_zeros {ip : Vector UInt8 16} (h : (ip.toList.drop 4).all (· = 0) = true) : netIP ip = .v6 ip := by
  refine if_neg fun he => ?_
  have h11 := getD_of_zeros h 7
  have h255 := congrArg (·.getD 11 0) he
  simp [List.getD_eq_getElem?_getD] at h11 h255
  rw [h11] at h255
  exact absurd h255 (by decide)

theorem swapped_port_iff (port : UInt16) :
    port = UInt16.ofNat (beNat (leBytes 2 port.toNat)) ↔ port.toNat / 256 = port.toNat % 256 := by
  have hlt := port.toNat_lt
  have hval : beNat (leBytes 2 port.toNat) = port.toNat / 256 + 256 * (port.toNat % 256) := by
    simp [beNat, leBytes, leNat]
    omega
  rw [← UInt16.toNat_inj, hval, UInt16.toNat_ofNat']
  omega

theorem meantHost_text (A : IpAddress) : meantHost (Socks5.textOf A) = some A := by
  cases A with
  | v4 bytes =>
    rw [meantHost, Tunnel.toList_textOf_v4, InetText.inetPton4_dotted]
    rfl
  | v6 bytes =>
    have hsplit : ([':'].intercalate (bytes.toList.map InetText.decimal)).splitOn ':' = bytes.toList.map InetText.decimal := by
      apply List.splitOn_intercalate
      · intro g hg
        exact (Tunnel.decimal_groups _ g hg).2
      · intro hnil
        have := congrArg List.length hnil
        simp at this
    rw [meantHost, Tunnel.toList_textOf_v6, InetText.inetPton4_of_no_dot (Tunnel.dot_not_mem_text _), hsplit,
      InetText.mapM_decByte, Option.bind_some, InetText.exactly_toList]
    rfl

/-- The dialled addresses always differ. -/
theorem addresses_differ (ip : Vector UInt8 16) : numericHost (ipArrayToStr ip) ≠ some (netIP ip) := by
  rw [ipArrayToStr_eq]
  by_cases hz : (ip.toList.drop 4).all (· = 0) = true
  · rw [familyOf_v4 hz, numericHost_v4, netIP_of_zeros hz]
    nofun
  · rw [familyOf_v6 hz, numericHost_v6]
    nofun

/-- They are meant to be the same for IPv6 proper. -/
theorem familyOf_eq_netIP_iff (ip : Vector UInt8 16) : familyOf ip = netIP ip ↔
    (∃ b ∈ ip.toList.drop 4, b ≠ 0) ∧ ip.toList.take 12 ≠ List.replicate 10 0 ++ [255, 255] := by
  by_cases hz : (ip.toList.drop 4).all (· = 0) = true
  · rw [familyOf_v4 hz, netIP_of_zeros hz]
    refine iff_of_false nofun ?_
    rintro ⟨⟨b, hb, hne⟩, -⟩
    exact hne (by simpa using List.all_eq_true.1 hz b hb)
  · have hex : ∃ b ∈ ip.toList.drop 4, b ≠ 0 := by simpa using hz
    rw [familyOf_v6 hz]
    by_cases hm : ip.toList.take 12 = List.replicate 10 0 ++ [255, 255]
    · rw [show netIP ip = .v4 _ from if_pos hm]
      exact iff_of_false nofun fun h => h.2 hm
    · rw [show netIP ip = .v6 ip from if_neg hm]
      exact iff_of_true rfl ⟨hex, hm⟩

/-- The same, said of the four or sixteen bytes of the address. -/
theorem same_family_iff {a : AddrInfo} (h : a.data.length = 4 ∨ a.data.length = 16) :
    familyOf (ip16 a.data) = netIP (ip16 a.data) ↔
      (∃ b ∈ a.data.drop 4, b ≠ 0) ∧ a.data.take 12 ≠ List.replicate 10 0 ++ [255, 255] := by
  rw [familyOf_eq_netIP_iff]
  rcases h with h4 | h16
  · -- four bytes are filled up with zeros, and the native server takes them for IPv4
    rw [Socks5.toList_ip16_short h4, List.drop_left' h4, List.drop_of_length_le (Nat.le_of_eq h4)]
    refine iff_of_false ?_ ?_
    · rintro ⟨⟨b, hb, hne⟩, -⟩
      exact hne (List.eq_of_mem_replicate hb)
    · rintro ⟨⟨b, hb, -⟩, -⟩
      exact List.not_mem_nil hb
  · rw [toList_ip16 h16]

/-! ## The two servers -/

section
variable {a : AddrInfo} {payload : BinarySafeString} {r : ClientQuery} {host : String → Option IpAddress}

/-- A data packet is data for the native server, whatever the payload. -/
theorem nativeVerdict_of_data (shape : (a.type = .ipv4 ∧ a.data.length = 4) ∨ (a.type = .ipv6 ∧ a.data.length = 16))
    (nonzero : ∃ b ∈ a.data, b ≠ 0) (h : r.Same (dataQuery payload (ipTemplate a))) :
    nativeVerdict host r = some (.dial (host (ipArrayToStr (ip16 a.data))) a.port) := by
  obtain ⟨hip, hport⟩ := Socks5.dataQuery_dest payload a
  have hdns : isDnsQuery r = false := by
    rw [isDnsQuery_same h, isDnsQuery_eq_false_iff, hip]
    exact (Socks5.exists_ip16_ne_zero (shape.imp And.right And.right)).2 nonzero
  rw [nativeVerdict_data hdns, h.1, h.2.1, hip, hport]

/-- The Go server looks at the payload first. -/
theorem goVerdict_of_data (hhead : ¬dnsHead <+: payload.bytes) :
    goVerdict (.ofClient (dataQuery payload (ipTemplate a))) =
      some (.dial (some (netIP (ip16 a.data))) (UInt16.ofNat (beNat (leBytes 2 a.port.toNat)))) := by
  obtain ⟨hip, hport⟩ := Socks5.dataQuery_dest payload a
  rw [goVerdict_data (by rwa [Socks5.dataQuery_payload]), hip, hport]

theorem goVerdict_of_head (hhead : dnsHead <+: payload.bytes) :
    goVerdict (.ofClient (dataQuery payload (ipTemplate a))) = some (.lookup (payload.bytes.drop 32)) := by
  rw [goVerdict_dns (by rwa [Socks5.dataQuery_payload]), Socks5.dataQuery_payload]

end

/-- For every first packet and every module that brings it to both servers: they do not do the same; and they would not even
if the native server's text were read as it is meant, but for the few packets that are `Alike`. -/
theorem servers_never_agree (M : Tunnel.Module) (f : FirstPacket) (h : Arrives M f) :
    nativeVerdict numericHost (f.atNative M) ≠ goVerdict (.ofClient (f.atGo M)) ∧
      (nativeVerdict meantHost (f.atNative M) = goVerdict (.ofClient (f.atGo M)) ↔ f.Alike) := by
  have hnat := h.native
  rw [ofClient_same h.go]
  cases f with
  | dns a fits => exact ⟨questions_differ fits, iff_of_false (questions_differ fits) id⟩
  | data a shape nonzero port payload =>
    rw [nativeVerdict_of_data shape nonzero hnat, nativeVerdict_of_data shape nonzero hnat]
    by_cases hhead : dnsHead <+: payload.bytes
    · rw [FirstPacket.query, goVerdict_of_head hhead]
      exact ⟨nofun, iff_of_false nofun fun halike => halike.2.2.2 hhead⟩
    · rw [FirstPacket.query, goVerdict_of_data hhead, ipArrayToStr_eq, meantHost_text]
      constructor
      · intro he
        rw [← ipArrayToStr_eq] at he
        injection he with he
        injection he with haddr
        exact addresses_differ _ haddr
      · have hfam := same_family_iff (shape.imp And.right And.right)
        have hport := swapped_port_iff a.port
        constructor
        · intro he
          injection he with he
          injection he with haddr hp
          injection haddr with haddr
          obtain ⟨hhigh, hmapped⟩ := hfam.1 haddr
          exact ⟨hhigh, hmapped, hport.1 hp, hhead⟩
        · rintro ⟨hhigh, hmapped, hbytes, -⟩
          rw [← hport.2 hbytes, hfam.2 ⟨hhigh, hmapped⟩]

theorem simpleSetup_arrives (f : FirstPacket) (h : f.query.payload.length.toNat ≤ 1024) :
    Arrives Tunnel.simpleSetup.module f := by
  have hlt : 27 + f.query.payload.length.toNat < 2 ^ 32 := by omega
  obtain ⟨-, hsame⟩ := Tunnel.simpleProxy_brings (fun _ => 0) (Tunnel.chunkQuery 0 []) ⟨.ofBlock [65], none⟩ hlt
  constructor
  · exact hsame _ (BinarySafeString.ofBlock_bytes_bytes _)
  · exact hsame _ (NetLib.cgoString_bytes (by rw [BinarySafeString.length_bytes]; exact UInt32.toNat_lt _))

/-- `GET` for `10.0.0.7:80`. -/
def plainRequest : FirstPacket :=
  .data ⟨.ipv4, [10, 0, 0, 7], 80⟩ (.inl ⟨rfl, rfl⟩) ⟨10, by decide, by decide⟩ (by decide) (.ofBlock [71, 69, 84])

/-- `2001:db8::1`, port 257: a packet of the one kind that the two are meant to treat alike. -/
def alikeRequest : FirstPacket :=
  .data ⟨.ipv6, [32, 1, 13, 184, 0, 0, 0, 0, 0, 0, 0, 0, 0, 0, 0, 1], 257⟩ (.inr ⟨rfl, rfl⟩) ⟨32, by decide, by decide⟩
    (by decide) (.ofBlock [71, 69, 84])

theorem servers_never_agree_alike_request : alikeRequest.Alike ∧
    nativeVerdict numericHost (alikeRequest.atNative Tunnel.simpleSetup.module) ≠
      goVerdict (.ofClient (alikeRequest.atGo Tunnel.simpleSetup.module)) ∧
    nativeVerdict meantHost (alikeRequest.atNative Tunnel.simpleSetup.module) =
      goVerdict (.ofClient (alikeRequest.atGo Tunnel.simpleSetup.module)) := by
  have halike : alikeRequest.Alike := ⟨⟨1, by decide, by decide⟩, by decide, by decide, by decide⟩
  obtain ⟨hne, hiff⟩ := servers_never_agree _ alikeRequest (simpleSetup_arrives _ (by decide))
  exact ⟨halike, hne, hiff.2 halike⟩

/-- The native server dials `10.0.0.7:80`, the Go server `[a00:7::]:20480`. -/
theorem one_packet_two_destinations :
    nativeVerdict numericHost (plainRequest.atNative Tunnel.simpleSetup.module) =
      some (.dial (some (.v4 #v[10, 0, 0, 7])) 80) ∧
    goVerdict (.ofClient (plainRequest.atGo Tunnel.simpleSetup.module)) =
      some (.dial (some (.v6 #v[10, 0, 0, 7, 0, 0, 0, 0, 0, 0, 0, 0, 0, 0, 0, 0])) 20480) ∧
    nativeVerdict numericHost (plainRequest.atNative Tunnel.simpleSetup.module) ≠
      goVerdict (.ofClient (plainRequest.atGo Tunnel.simpleSetup.module)) := by
  have harr := simpleSetup_arrives plainRequest (by decide)
  have hnative : nativeVerdict numericHost (plainRequest.atNative Tunnel.simpleSetup.module) =
      some (.dial (some (.v4 #v[10, 0, 0, 7])) 80) := by
    rw [nativeVerdict_of_data (.inl ⟨rfl, rfl⟩) ⟨10, by decide, by decide⟩ harr.native, ipArrayToStr_eq,
      Socks5.familyOf_ip16_short rfl, numericHost_v4]
    rfl
  have hgo : goVerdict (.ofClient (plainRequest.atGo Tunnel.simpleSetup.module)) =
      some (.dial (some (.v6 #v[10, 0, 0, 7, 0, 0, 0, 0, 0, 0, 0, 0, 0, 0, 0, 0])) 20480) := by
    rw [ofClient_same harr.go]
    exact (goVerdict_of_data (by decide)).trans (by rfl)
  refine ⟨hnative, hgo, ?_⟩
  rw [hnative, hgo]
  nofun

end SnakeSocks.Go
