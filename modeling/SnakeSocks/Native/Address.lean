import SnakeSocks.Native.Framing
import SnakeSocks.Native.RelayProofs
import SnakeSocks.Native.Socks5

/-!
# Addresses on their way from the SOCKS peer or the resolver to the destination socket

| here | there |
| --- | --- |
| `AddrInfo.ofArray`, `AddrInfo.not`, `AddrInfo.try6to4`, `AddrInfo.toQueryTemplate`, `AddrInfo.makeDnsQueryBody`, `AddrInfo.print` | the members of `addr_info` (`socks5.hpp:63-138`) |
| `assembleDnsQuery` | `NetLib::assemble_dns_query` (`NetLib.hpp:51`) |
| `goodAddr`, `dnsPkgs` | `Socks5Connection::dns_pkgs` (`socks5.cc:266-300`) |
| `familyOf` | the test of `ip_array_to_str` (`NetLib.hpp:78-86`) |

The family of an address is not transmitted. A query carries 16 bytes; twelve zeros at the end stand for IPv4, and
sixteen zeros for "this is a DNS query". `resolved_address_survives` says which resolved addresses get through that, and
`empty_test_iff` which of them the client takes for "no address".
-/

namespace SnakeSocks.Socks5

open ByteLib CMem Frames Sio NetLib
open Effects (bind_of_ok)
open Tunnel (IpAddress clientEncode isDnsQuery ipArrayToStr dnsResponse)

/-! ## The code -/

def AddrInfo.ofArray (v6addr : Vector UInt8 16) (port : UInt16) : AddrInfo := ⟨.ipv6, v6addr.toList, port⟩

/-- `operator!`. The sum is kept in a `char`. -/
def AddrInfo.not (a : AddrInfo) : Bool := a.data.foldl (· + ·) 0 = 0 || a.type = .null

def AddrInfo.try6to4 (a : AddrInfo) : Except Stop AddrInfo :=
  if a.type ≠ .ipv6 then .error (.exn "incorrect type.")
  else if (a.data.drop 4).all (· = 0) then .ok { a with data := a.data.take 4, type := .ipv4 }
  else .ok a

def AddrInfo.toQueryTemplate (a : AddrInfo) : Except Stop ClientQuery :=
  if a.type = .null then .error (.exn "convert null addr to query template.")
  else if a.type = .domain then .error (.exn "convert addr to query template before resolve its domain.")
  else if a.port = 0 then .error (.exn "convert addr to query template before assign port number.")
  else do
    let ip ← (memcpy (List.replicate 16 0) 0 a.data 0 (if a.type = .ipv4 then 4 else 16)).mapError .fault
    return ⟨ip16 ip, a.port, .null false⟩

/-- Bytes as the text a log shows. -/
def latin (bs : Bytes) : String := String.ofList (bs.map fun b => Char.ofNat b.toNat)

/-- `(int)e` of a signed `char`. -/
def AddrInfo.dump (a : AddrInfo) : String := String.join (a.data.map fun b => toString (schar b) ++ "|")

def AddrInfo.print (a : AddrInfo) : String :=
  match a.type with
  | .null => "null"
  | .ipv4 => "ipv4 " ++ a.dump
  | .ipv6 => "ipv6 " ++ a.dump
  | .domain => "domain " ++ latin a.data

def dnsHead : Bytes := "__m_str_dns_head_32__snakesocks_".toList.map fun c => UInt8.ofNat c.toNat

def assembleDnsQuery (domain : Bytes) : ClientQuery :=
  ⟨Vector.replicate 16 0, 0, { BinarySafeString.ofBlock (dnsHead ++ domain ++ [0]) with nullTerminated := true }⟩

def AddrInfo.makeDnsQueryBody (a : AddrInfo) : ClientQuery := { assembleDnsQuery a.data with destinationPort := a.port }

/-- What `dns_pkgs` makes of the decoded answer. -/
def goodAddr (rawAddr : AddrInfo) (dnsResponse : ClientQuery) : Except Stop AddrInfo :=
  let goodaddr := AddrInfo.ofArray dnsResponse.destinationIp rawAddr.port
  if goodaddr.not then .error (.exn ("Can not resolve address `" ++ rawAddr.print ++ "`"))
  else goodaddr.try6to4

def ofExcept {α : Type} (x : Except Stop α) : Io α := fun p =>
  match x with
  | .ok a => .ok a p
  | .error e => .error e p

/-- The process is the client at its tunnel socket. -/
def dnsPkgs (M : Tunnel.Module) (rawAddr : AddrInfo) : Io AddrInfo := do
  if rawAddr.type ≠ .domain then
    return rawAddr
  else
    let pkg := rawAddr.makeDnsQueryBody
    let firstPack := clientEncode M.clientEncode pkg.payload pkg
    sendBytes (beBytes 4 firstPack.length.toNat)
    sendBytes firstPack.bytes
    let firstReturnPack ← recvDnsReply
    ofExcept (goodAddr rawAddr (M.clientDecode firstReturnPack))

/-- The packet `launch` makes of a payload: `dns_pkgs`, the template at the start of `passData`, and `encode`. -/
def dataPacket (M : Tunnel.Module) (rawAddr : AddrInfo) (payload : BinarySafeString) : Io BinarySafeString := do
  let resolvedAddr ← dnsPkgs M rawAddr
  let templateQueryWithIp ← ofExcept resolvedAddr.toQueryTemplate
  return clientEncode M.clientEncode payload templateQueryWithIp

/-! ## Sixteen bytes for an address -/

def ip4 (bs : Bytes) : Vector UInt8 4 := Vector.ofFn fun i => bs.getD i 0

/-- The address `ip_array_to_str` takes 16 bytes for. -/
def familyOf (ip : Vector UInt8 16) : IpAddress :=
  if (ip.toList.drop 4).all (· = 0) then .v4 (ip4 ip.toList) else .v6 ip

/-- The text `ip_array_to_str` gives an address. -/
def textOf : IpAddress → String
  | .v4 bytes => String.intercalate "." (bytes.toList.map fun b => toString b.toNat)
  | .v6 bytes => String.intercalate ":" (bytes.toList.map fun b => toString b.toNat)

theorem toList_ip4 {bs : Bytes} (h : bs.length = 4) : (ip4 bs).toList = bs := by
  apply List.ext_getElem (by simp [h])
  intro i h1 h2
  simp [ip4, h2]

theorem ip4_toList (v : Vector UInt8 4) : ip4 v.toList = v := by
  apply Vector.toList_inj.1
  exact toList_ip4 (by simp)

theorem ip4_take (bs : Bytes) : ip4 (bs.take 4) = ip4 bs := by
  apply Vector.ext
  intro i hi
  simp [ip4]

/-- An IPv4 address is followed by zeros. -/
theorem toList_ip16_short {bs : Bytes} (h : bs.length = 4) : (ip16 bs).toList = bs ++ List.replicate 12 0 := by
  apply List.ext_getElem (by simp [h])
  intro i h1 h2
  by_cases hi : i < 4
  · simp [ip16, h, hi]
  · have hz : (bs ++ List.replicate 12 0)[i] = 0 := by
      rw [List.getElem_append_right (by omega)]
      exact List.getElem_replicate _
    rw [hz]
    simp [ip16, h, hi]

theorem familyOf_v4 {ip : Vector UInt8 16} (h : (ip.toList.drop 4).all (· = 0) = true) : familyOf ip = .v4 (ip4 ip.toList) :=
  if_pos h

theorem familyOf_v6 {ip : Vector UInt8 16} (h : ¬(ip.toList.drop 4).all (· = 0) = true) : familyOf ip = .v6 ip := if_neg h

theorem familyOf_ip16_short {bs : Bytes} (h : bs.length = 4) : familyOf (ip16 bs) = .v4 (ip4 bs) := by
  have htail : ((ip16 bs).toList.drop 4).all (· = 0) = true := by
    rw [toList_ip16_short h, List.drop_left' h]
    rfl
  rw [familyOf_v4 htail, ← ip4_take, toList_ip16_short h, List.take_left' h]

theorem ipArrayToStr_eq (ip : Vector UInt8 16) : ipArrayToStr ip = textOf (familyOf ip) := by
  have hlen : ip.toList.length = 16 := by simp
  have hany : (ip.toList.drop 4).any (· ≠ 0) = !(ip.toList.drop 4).all (· = 0) := by
    rw [List.not_all_eq_any_not]
    congr 1
    funext b
    simp
  rw [ipArrayToStr, familyOf, hany]
  cases h : (ip.toList.drop 4).all (· = 0) with
  | true =>
    have h4 : (ip4 ip.toList).toList = ip.toList.take 4 := by rw [← ip4_take, toList_ip4 (by simp [hlen])]
    simp [textOf, h4]
  | false =>
    have h16 : ip.toList.take 16 = ip.toList := List.take_of_length_le (by omega)
    simp [textOf, h16]

/-! ## Resolved names -/

/-- What becomes of an address in 16 bytes: an IPv6 address that ends in twelve zeros stands for IPv4. -/
def wireAddress : IpAddress → IpAddress
  | .v4 bytes => .v4 bytes
  | .v6 bytes => if (bytes.toList.drop 4).all (· = 0) then .v4 (ip4 bytes.toList) else .v6 bytes

/-- The sum of the bytes, in a `char`. -/
def byteSum : IpAddress → UInt8
  | .v4 bytes => bytes.toList.foldl (· + ·) 0
  | .v6 bytes => bytes.toList.foldl (· + ·) 0

/-- The template for a name, from the server's answer. -/
def resolvedTemplate (rawAddr : AddrInfo) (dnsResponse : ClientQuery) : Except Stop ClientQuery := do
  let goodaddr ← goodAddr rawAddr dnsResponse
  goodaddr.toQueryTemplate

section
variable {bs : Bytes} {port : UInt16}

theorem foldl_add_zeros (n : Nat) (x : UInt8) : (List.replicate n 0).foldl (· + ·) x = x := by
  induction n generalizing x with
  | zero => rfl
  | succ n ih => rw [List.replicate_succ, List.foldl_cons, ih, UInt8.add_zero]

theorem toQueryTemplate_ipv4 (h : bs.length = 4) (hp : port ≠ 0) :
    (AddrInfo.mk .ipv4 bs port).toQueryTemplate = .ok ⟨ip16 bs, port, .null false⟩ := by
  have hc : memcpy (List.replicate 16 0) 0 bs 0 4 = .ok (bs ++ List.replicate 12 0) := by
    rw [memcpy_ok (by omega) (by simp), ← h, slice_all, splice_zero, h]
    rfl
  have hip : ip16 (bs ++ List.replicate 12 0) = ip16 bs := by
    rw [← toList_ip16_short h, ip16_toList]
  simp only [AddrInfo.toQueryTemplate, hp, reduceCtorEq, if_false, if_true, hc]
  rw [← hip]
  rfl

theorem toQueryTemplate_ipv6 (h : bs.length = 16) (hp : port ≠ 0) :
    (AddrInfo.mk .ipv6 bs port).toQueryTemplate = .ok ⟨ip16 bs, port, .null false⟩ := by
  have hc : memcpy (List.replicate 16 0) 0 bs 0 16 = .ok bs := by
    rw [memcpy_ok (by omega) (by simp), ← h, slice_all, splice_zero, h]
    simp
  simp only [AddrInfo.toQueryTemplate, hp, reduceCtorEq, if_false, hc]
  rfl

theorem try6to4_ofArray (ip : Vector UInt8 16) (port : UInt16) :
    (AddrInfo.ofArray ip port).try6to4 = if (ip.toList.drop 4).all (· = 0) = true then
      .ok ⟨.ipv4, ip.toList.take 4, port⟩ else .ok ⟨.ipv6, ip.toList, port⟩ := by
  rw [AddrInfo.try6to4, if_neg (by simp [AddrInfo.ofArray])]
  rfl

/-- Sixteen bytes whose sum is not 0 make a template for the address they stand for. -/
theorem resolvedTemplate_ok (rawAddr : AddrInfo) (answer : ClientQuery) (hp : rawAddr.port ≠ 0)
    (hs : answer.destinationIp.toList.foldl (· + ·) 0 ≠ 0) :
    ∃ t, resolvedTemplate rawAddr answer = .ok t ∧ t.destinationPort = rawAddr.port ∧
      familyOf t.destinationIp = familyOf answer.destinationIp := by
  have hnot : (AddrInfo.ofArray answer.destinationIp rawAddr.port).not = false := by
    simp only [AddrInfo.not, AddrInfo.ofArray, hs, decide_false, Bool.false_or, reduceCtorEq]
  have hlen : answer.destinationIp.toList.length = 16 := by simp
  have hgood : goodAddr rawAddr answer = (AddrInfo.ofArray answer.destinationIp rawAddr.port).try6to4 := by
    rw [goodAddr, hnot]
    rfl
  rw [resolvedTemplate, hgood, try6to4_ofArray]
  generalize answer.destinationIp = ip at *
  by_cases hz : (ip.toList.drop 4).all (· = 0) = true
  · have h4 : (ip.toList.take 4).length = 4 := by simp
    refine ⟨⟨ip16 (ip.toList.take 4), rawAddr.port, .null false⟩, ?_, rfl, ?_⟩
    · rw [if_pos hz, ok_bind, toQueryTemplate_ipv4 h4 hp]
    · rw [familyOf_ip16_short h4, familyOf_v4 hz, ip4_take]
  · refine ⟨⟨ip16 ip.toList, rawAddr.port, .null false⟩, ?_, rfl, ?_⟩
    · rw [if_neg hz, ok_bind, toQueryTemplate_ipv6 hlen hp]
    · rw [ip16_toList]

/-- The bytes of the answer stand for `wireAddress`, and have the sum of the address. -/
theorem dnsResponse_address (query : ClientQuery) (A : IpAddress) :
    familyOf (dnsResponse query A).destinationIp = wireAddress A ∧
      (dnsResponse query A).destinationIp.toList.foldl (· + ·) 0 = byteSum A := by
  cases A with
  | v4 bytes =>
    have h4 : bytes.toList.length = 4 := by simp
    constructor
    · show familyOf (ip16 bytes.toList) = .v4 bytes
      rw [familyOf_ip16_short h4, ip4_toList]
    · show (ip16 bytes.toList).toList.foldl (· + ·) 0 = bytes.toList.foldl (· + ·) 0
      rw [toList_ip16_short h4, List.foldl_append, foldl_add_zeros]
  | v6 bytes => exact ⟨rfl, rfl⟩

end

/-- For every name, every answer of the resolver whose bytes do not add up to a multiple of 256, and every port but 0:
the client gets a template for that address, and the server reads its family and its bytes off the template. An IPv6
address that ends in twelve zeros is the one that comes out as IPv4. -/
theorem resolved_address_survives (rawAddr : AddrInfo) (query : ClientQuery) (A : IpAddress) (hport : rawAddr.port ≠ 0)
    (hsum : byteSum A ≠ 0) :
    ∃ t, resolvedTemplate rawAddr (dnsResponse query A) = .ok t ∧ t.destinationPort = rawAddr.port ∧
      familyOf t.destinationIp = wireAddress A ∧ ipArrayToStr t.destinationIp = textOf (wireAddress A) := by
  obtain ⟨hwire, hbytes⟩ := dnsResponse_address query A
  obtain ⟨t, ht, hp, hf⟩ := resolvedTemplate_ok rawAddr (dnsResponse query A) hport (by rwa [hbytes])
  refine ⟨t, ht, hp, hf.trans hwire, ?_⟩
  rw [ipArrayToStr_eq, hf, hwire]

/-- `example.org`, asked for by a CONNECT to port 80. -/
def exampleName : AddrInfo := ⟨.domain, [101, 120, 97, 109, 112, 108, 101, 46, 111, 114, 103], 80⟩

theorem resolved_address_survives_ipv4 :
    ∃ t, resolvedTemplate exampleName (dnsResponse exampleName.makeDnsQueryBody (.v4 #v[10, 0, 0, 7])) = .ok t ∧
      t.destinationPort = 80 ∧ familyOf t.destinationIp = .v4 #v[10, 0, 0, 7] ∧
      ipArrayToStr t.destinationIp = textOf (.v4 #v[10, 0, 0, 7]) :=
  resolved_address_survives exampleName _ (.v4 #v[10, 0, 0, 7]) (by decide) (by decide)

/-- The IPv6 address 2001:db8:: comes out as the IPv4 address 32.1.13.184. -/
theorem ipv6_prefix_becomes_ipv4 :
    ∃ t, resolvedTemplate exampleName (dnsResponse exampleName.makeDnsQueryBody
        (.v6 #v[0x20, 0x01, 0x0d, 0xb8, 0, 0, 0, 0, 0, 0, 0, 0, 0, 0, 0, 0])) = .ok t ∧
      familyOf t.destinationIp = .v4 #v[32, 1, 13, 184] ∧
      familyOf t.destinationIp ≠ .v6 #v[0x20, 0x01, 0x0d, 0xb8, 0, 0, 0, 0, 0, 0, 0, 0, 0, 0, 0, 0] := by
  obtain ⟨t, ht, -, hf⟩ := resolvedTemplate_ok exampleName (dnsResponse exampleName.makeDnsQueryBody
    (.v6 #v[0x20, 0x01, 0x0d, 0xb8, 0, 0, 0, 0, 0, 0, 0, 0, 0, 0, 0, 0])) (by decide) (by decide)
  have hv4 : familyOf t.destinationIp = .v4 #v[32, 1, 13, 184] := hf.trans (by rfl)
  exact ⟨t, ht, hv4, by rw [hv4]; simp⟩

/-! ## Empty addresses -/

/-- The bytes add up to a multiple of 256 only if they are all zero. -/
def SumTells (bs : Bytes) : Prop := 256 ∣ (bs.map UInt8.toNat).sum → ∀ b ∈ bs, b = 0

/-- `operator!` says whether the address is empty. -/
def RejectsOnlyEmpty (a : AddrInfo) : Prop := a.not = true ↔ a.type = .null ∨ ∀ b ∈ a.data, b = 0

/-- The question and the packet that comes back, as bytes (`socks5.cc:271-287`). -/
def exchangeDns (M : Tunnel.Module) (rawAddr : AddrInfo) : Io BinarySafeString := do
  let pkg := rawAddr.makeDnsQueryBody
  let firstPack := clientEncode M.clientEncode pkg.payload pkg
  sendBytes (beBytes 4 firstPack.length.toNat)
  sendBytes firstPack.bytes
  recvDnsReply

def cannotResolve (rawAddr : AddrInfo) : Stop := .exn ("Can not resolve address `" ++ rawAddr.print ++ "`")

section
variable {M : Tunnel.Module} {rawAddr : AddrInfo} {p p' : Proc} {reply : BinarySafeString}

theorem toNat_foldl_add (bs : Bytes) (x : UInt8) :
    (bs.foldl (· + ·) x).toNat = (x.toNat + (bs.map UInt8.toNat).sum) % 256 := by
  induction bs generalizing x with
  | nil =>
    have hx := x.toNat_lt
    simp
  | cons b bs ih =>
    rw [List.foldl_cons, ih, List.map_cons, List.sum_cons, UInt8.toNat_add]
    omega

theorem foldl_add_eq_zero_iff (bs : Bytes) : bs.foldl (· + ·) 0 = 0 ↔ 256 ∣ (bs.map UInt8.toNat).sum := by
  rw [← UInt8.toNat_inj, toNat_foldl_add, Nat.dvd_iff_mod_eq_zero]
  simp

theorem sum_eq_zero_of_zeros {bs : Bytes} (h : ∀ b ∈ bs, b = 0) : (bs.map UInt8.toNat).sum = 0 := by
  induction bs with
  | nil => rfl
  | cons b bs ih =>
    rw [List.map_cons, List.sum_cons, h b List.mem_cons_self, ih fun c hc => h c (List.mem_cons_of_mem _ hc)]
    rfl

theorem not_eq_true_iff (a : AddrInfo) : a.not = true ↔ a.type = .null ∨ 256 ∣ (a.data.map UInt8.toNat).sum := by
  rw [AddrInfo.not, Bool.or_eq_true, decide_eq_true_iff, decide_eq_true_iff, foldl_add_eq_zero_iff, or_comm]

theorem rejectsOnlyEmpty_iff (a : AddrInfo) : RejectsOnlyEmpty a ↔ a.type = .null ∨ SumTells a.data := by
  rw [RejectsOnlyEmpty, not_eq_true_iff]
  by_cases hn : a.type = .null
  · simp [hn]
  · simp only [hn, false_or]
    constructor
    · intro h
      exact h.1
    · intro h
      exact ⟨h, fun hz => by rw [sum_eq_zero_of_zeros hz]; exact Nat.dvd_zero _⟩

theorem dnsPkgs_of_exchange (hd : rawAddr.type = .domain) (hx : exchangeDns M rawAddr p = .ok reply p') :
    dnsPkgs M rawAddr p = ofExcept (goodAddr rawAddr (M.clientDecode reply)) p' := by
  have he : dnsPkgs M rawAddr = exchangeDns M rawAddr >>= fun r => ofExcept (goodAddr rawAddr (M.clientDecode r)) := by
    rw [dnsPkgs, if_neg (not_not.2 hd), exchangeDns]
    simp only [bind_assoc]
  rw [he, bind_of_ok hx]

theorem goodAddr_refuses_iff (rawAddr : AddrInfo) (answer : ClientQuery) :
    goodAddr rawAddr answer = .error (cannotResolve rawAddr) ↔ 256 ∣ (answer.destinationIp.toList.map UInt8.toNat).sum := by
  have hnot := not_eq_true_iff (.ofArray answer.destinationIp rawAddr.port)
  simp only [AddrInfo.ofArray, reduceCtorEq, false_or] at hnot
  rw [← hnot, goodAddr]
  split
  · next h => exact iff_of_true rfl h
  · next h =>
    refine iff_of_false ?_ h
    rw [try6to4_ofArray]
    split <;> nofun

/-- The server's answer, if it is not zero, is not refused. -/
def AnswerKept (M : Tunnel.Module) (rawAddr : AddrInfo) (p : Proc) (reply : BinarySafeString) : Prop :=
  (∃ b ∈ (M.clientDecode reply).destinationIp.toList, b ≠ 0) → ∀ p', dnsPkgs M rawAddr p ≠ .error (cannotResolve rawAddr) p'

theorem answerKept_iff (hd : rawAddr.type = .domain) (hx : exchangeDns M rawAddr p = .ok reply p') :
    AnswerKept M rawAddr p reply ↔ SumTells (M.clientDecode reply).destinationIp.toList := by
  have hrefuse := goodAddr_refuses_iff rawAddr (M.clientDecode reply)
  rw [AnswerKept, dnsPkgs_of_exchange hd hx, SumTells, ← hrefuse]
  constructor
  · intro h hsum b hb
    by_contra hne
    exact h ⟨b, hb, hne⟩ p' (by rw [hsum]; rfl)
  · rintro h ⟨b, hb, hne⟩ p'' he
    refine hne (h ?_ b hb)
    rcases hg : goodAddr rawAddr (M.clientDecode reply) with e | a
    · rw [hg] at he
      cases he
      rfl
    · rw [hg] at he
      cases he

end

/-- For every address, `operator!` tells an empty one exactly if its bytes do not add up to a multiple of 256 without
being zero; and the same goes for the sixteen bytes of a DNS answer, and whether `dns_pkgs` refuses it. -/
theorem empty_test_iff (a : AddrInfo) (M : Tunnel.Module) (rawAddr : AddrInfo) (hd : rawAddr.type = .domain) (p p' : Proc)
    (reply : BinarySafeString) (hx : exchangeDns M rawAddr p = .ok reply p') :
    (RejectsOnlyEmpty a ↔ a.type = .null ∨ SumTells a.data) ∧
      (AnswerKept M rawAddr p reply ↔ SumTells (M.clientDecode reply).destinationIp.toList) :=
  ⟨rejectsOnlyEmpty_iff a, answerKept_iff hd hx⟩

theorem willing_replicate (n : Nat) : willing (List.replicate n (.wrote 1)) n = true := by
  induction n with
  | zero => rfl
  | succ n ih => exact ih

/-- A server that takes the question and answers with `packet`. -/
theorem exists_exchange (M : Tunnel.Module) (rawAddr : AddrInfo) (packet : BinarySafeString)
    (h : packet.length.toNat ≤ maxPacket) : ∃ p p', exchangeDns M rawAddr p = .ok (.ofBlock packet.bytes) p' := by
  obtain ⟨dat, hdat⟩ : ∃ dat, dat = clientEncode M.clientEncode rawAddr.makeDnsQueryBody.payload rawAddr.makeDnsQueryBody :=
    ⟨_, rfl⟩
  have hlen : packet.bytes.length ≤ maxPacket := by rwa [BinarySafeString.length_bytes]
  obtain ⟨evs, hwill⟩ : ∃ evs, willing evs ((beBytes 4 dat.length.toNat).length + (dat.bytes.length + 0)) = true :=
    ⟨_, willing_replicate _⟩
  have hdel : delivered [.data (frame 4 packet.bytes)] = frame 4 packet.bytes ++ [] := by
    have hne : frame 4 packet.bytes ≠ [] := by
      intro h0
      have := congrArg List.length h0
      simp [frame] at this
    simp [delivered, hne]
  obtain ⟨p₁, e₁, i₁, w₁⟩ := sendBytes_willing (beBytes 4 dat.length.toNat)
    (p := ⟨⟨[.data (frame 4 packet.bytes)], evs, []⟩, []⟩) hwill
  obtain ⟨p₂, e₂, i₂, -⟩ := sendBytes_willing dat.bytes w₁
  have hd₂ : delivered p₂.sock.inp = frame 4 packet.bytes ++ [] := by rw [i₂, i₁, hdel]
  obtain ⟨p₃, e₃, d₃, -⟩ := recvLength_ok hd₂ (by simp [frame])
  rw [drop_frame, List.append_nil] at d₃
  obtain ⟨p₄, e₄, -⟩ := recvBody_ok d₃ le_rfl
  refine ⟨⟨⟨[.data (frame 4 packet.bytes)], evs, []⟩, []⟩, p₄, ?_⟩
  rw [exchangeDns, ← hdat, bind_of_ok e₁, bind_of_ok e₂, recvDnsReply, bind_of_ok e₃, announced_frame hlen, e₄,
    List.take_length]

/-- `simple_proxy` brings the answer `A` to a question about `example.org` back. -/
theorem exists_simple_exchange (A : IpAddress) : ∃ p p' reply,
    exchangeDns Tunnel.simpleSetup.module exampleName p = .ok reply p' ∧
      (Tunnel.simpleSetup.module.clientDecode reply).destinationIp = (dnsResponse exampleName.makeDnsQueryBody A).destinationIp := by
  have hpayload : (dnsResponse exampleName.makeDnsQueryBody A).payload.length.toNat = 0 := by cases A <;> rfl
  have hlt : 27 + (dnsResponse exampleName.makeDnsQueryBody A).payload.length.toNat < 2 ^ 32 := by omega
  obtain ⟨hlen, hsame⟩ := Tunnel.simpleProxy_brings (fun _ => 0) (Tunnel.chunkQuery 0 []) ⟨.ofBlock [65], none⟩ hlt
  obtain ⟨p, p', hx⟩ := exists_exchange Tunnel.simpleSetup.module exampleName _ (by rw [hlen]; unfold maxPacket; omega)
  refine ⟨p, p', _, hx, ?_⟩
  exact (hsame _ (BinarySafeString.ofBlock_bytes_bytes _)).1

/-- 10.0.0.7 gets through. -/
theorem empty_test_iff_unicast : ∃ p p' reply, exchangeDns Tunnel.simpleSetup.module exampleName p = .ok reply p' ∧
    RejectsOnlyEmpty ⟨.ipv4, [10, 0, 0, 7], 80⟩ ∧ AnswerKept Tunnel.simpleSetup.module exampleName p reply := by
  obtain ⟨p, p', reply, hx, hip⟩ := exists_simple_exchange (.v4 #v[10, 0, 0, 7])
  obtain ⟨hnot, hkept⟩ := empty_test_iff ⟨.ipv4, [10, 0, 0, 7], 80⟩ _ exampleName rfl p p' reply hx
  refine ⟨p, p', reply, hx, hnot.2 (.inr ?_), hkept.2 ?_⟩
  · intro h
    exact absurd h (by decide)
  · rw [hip]
    intro h
    exact absurd h (by decide)

/-- 8.8.120.120 is an address, and its bytes add up to 256. -/
theorem nonzero_answer_refused : ¬RejectsOnlyEmpty ⟨.ipv4, [8, 8, 120, 120], 80⟩ ∧
    ∃ p p' reply, exchangeDns Tunnel.simpleSetup.module exampleName p = .ok reply p' ∧
      (Tunnel.simpleSetup.module.clientDecode reply).destinationIp.toList = 8 :: 8 :: 120 :: 120 :: List.replicate 12 0 ∧
      dnsPkgs Tunnel.simpleSetup.module exampleName p = .error (cannotResolve exampleName) p' := by
  constructor
  · intro h
    exact absurd (h.1 (by decide)) (by decide)
  · obtain ⟨p, p', reply, hx, hip⟩ := exists_simple_exchange (.v4 #v[8, 8, 120, 120])
    refine ⟨p, p', reply, hx, by rw [hip]; decide, ?_⟩
    rw [dnsPkgs_of_exchange rfl hx, (goodAddr_refuses_iff _ _).2 (by rw [hip]; decide)]
    rfl

/-! ## Data packets -/

/-- The query `client_impl::encode` hands to the module. -/
def dataQuery (payload : BinarySafeString) (template : ClientQuery) : ClientQuery :=
  if payload.length ≠ 0 then { template with payload } else template

/-- The template for an address given as bytes. -/
def ipTemplate (a : AddrInfo) : ClientQuery := ⟨ip16 a.data, a.port, .null false⟩

section
variable {t : Bytes} {a : AddrInfo}

theorem dataQuery_payload (payload : BinarySafeString) (a : AddrInfo) :
    (dataQuery payload (ipTemplate a)).payload.bytes = payload.bytes := by
  unfold dataQuery
  split
  · rfl
  · next h =>
    have h0 : payload.length = 0 := by simpa using h
    simp [ipTemplate, BinarySafeString.bytes, BinarySafeString.null, h0]

theorem dataQuery_dest (payload : BinarySafeString) (a : AddrInfo) :
    (dataQuery payload (ipTemplate a)).destinationIp = ip16 a.data ∧
      (dataQuery payload (ipTemplate a)).destinationPort = a.port := by
  unfold dataQuery
  split <;> exact ⟨rfl, rfl⟩

theorem isDnsQuery_eq_false_iff (q : ClientQuery) : isDnsQuery q = false ↔ ∃ b ∈ q.destinationIp.toList, b ≠ 0 := by
  rw [isDnsQuery, List.all_eq_false]
  simp

theorem isDnsQuery_same {q r : ClientQuery} (h : q.Same r) : isDnsQuery q = isDnsQuery r := by
  rw [isDnsQuery, isDnsQuery, h.1]

/-- The address of an IPv4 or IPv6 request has 4 or 16 bytes. -/
theorem addrOf_ip (hip : t.getD 3 0 = 1 ∨ t.getD 3 0 = 4) {m : Nat} (hm : requestLen t = some m) (hl : m ≤ t.length) :
    ((addrOf t).type = .ipv4 ∧ (addrOf t).data.length = 4) ∨ ((addrOf t).type = .ipv6 ∧ (addrOf t).data.length = 16) := by
  unfold requestLen at hm
  unfold addrOf
  rcases hip with h1 | h4
  · rw [if_pos h1] at hm
    rw [if_pos h1]
    exact .inl ⟨rfl, length_slice (by have := Option.some.inj hm; omega)⟩
  · have h1 : ¬t.getD 3 0 = 1 := by rw [h4]; decide
    rw [if_neg h1, if_pos h4] at hm
    rw [if_neg h1, if_pos h4]
    exact .inr ⟨rfl, length_slice (by have := Option.some.inj hm; omega)⟩

theorem toQueryTemplate_ip (h : (a.type = .ipv4 ∧ a.data.length = 4) ∨ (a.type = .ipv6 ∧ a.data.length = 16))
    (hp : a.port ≠ 0) : a.toQueryTemplate = .ok (ipTemplate a) := by
  obtain ⟨type, data, port⟩ := a
  rcases h with ⟨ht, hl⟩ | ⟨ht, hl⟩
  · simp only at ht
    subst ht
    exact toQueryTemplate_ipv4 hl hp
  · simp only at ht
    subst ht
    exact toQueryTemplate_ipv6 hl hp

/-- Zero padding adds no other byte. -/
theorem exists_ip16_ne_zero (h : a.data.length = 4 ∨ a.data.length = 16) :
    (∃ b ∈ (ip16 a.data).toList, b ≠ 0) ↔ ∃ b ∈ a.data, b ≠ 0 := by
  rcases h with h4 | h16
  · rw [toList_ip16_short h4]
    constructor
    · rintro ⟨b, hb, hne⟩
      rcases List.mem_append.1 hb with hb | hb
      · exact ⟨b, hb, hne⟩
      · exact absurd (List.eq_of_mem_replicate hb) hne
    · rintro ⟨b, hb, hne⟩
      exact ⟨b, List.mem_append_left _ hb, hne⟩
  · rw [toList_ip16 h16]

/-- An IP address passes `dns_pkgs` untouched and becomes the template. -/
theorem dataPacket_ip (M : Tunnel.Module) (payload : BinarySafeString) (p : Proc)
    (h : (a.type = .ipv4 ∧ a.data.length = 4) ∨ (a.type = .ipv6 ∧ a.data.length = 16)) (hp : a.port ≠ 0) :
    dataPacket M a payload p = .ok (M.clientEncode (dataQuery payload (ipTemplate a))) p := by
  have htype : a.type ≠ .domain := by
    rcases h with ⟨ht, -⟩ | ⟨ht, -⟩ <;> rw [ht] <;> decide
  have hdns : dnsPkgs M a p = .ok a p := by
    rw [dnsPkgs, if_pos htype]
    rfl
  have htempl : ofExcept a.toQueryTemplate p = .ok (ipTemplate a) p := by
    rw [toQueryTemplate_ip h hp]
    rfl
  rw [dataPacket, bind_of_ok hdns, bind_of_ok htempl]
  rfl

theorem recvLengthAndPacket_whole {packet : BinarySafeString} (h : packet.length.toNat ≤ maxPacket) (rest : Bytes) :
    Tunnel.recvLengthAndPacket (frame 4 packet.bytes ++ rest) = .ok (packet.bytes, rest) := by
  obtain ⟨hdr, hrecv, hlen⟩ := Tunnel.recvn_header (Tunnel.length_bytes_lt packet) rest
  have hle : ¬packet.bytes.length > 64 * 1024 * 1024 := by
    rw [BinarySafeString.length_bytes]
    unfold maxPacket at h
    omega
  rw [Tunnel.recvLengthAndPacket, hrecv, ok_bind]
  simp only [hlen, if_neg hle, Tunnel.recvn_body]

end

/-- A CONNECT to an IPv4 address and port 80, taken off the wire in one piece. -/
def connectTo (a b c d : UInt8) : Sock := ⟨[.data [5, 1, 0, 1, a, b, c, d, 0, 80]], [.wrote 10], []⟩

theorem connectTo_accepted (a b c d : UInt8) :
    ∃ s', connectPkgs (fun _ => 0) (connectTo a b c d) = .ok ⟨.ipv4, [a, b, c, d], 80⟩ s' := by
  have hd : delivered (connectTo a b c d).inp = [5, 1, 0, 1, a, b, c, d, 0, 80] := rfl
  obtain ⟨s', e, -, -⟩ := @connectPkgs_ok (connectTo a b c d) _ (fun _ => 0) 10 hd ⟨rfl, le_rfl, rfl⟩ rfl rfl
  exact ⟨s', e⟩

/-- `simple_proxy` brings small queries back. -/
theorem simpleSetup_round (q : ClientQuery) (h : q.payload.length.toNat ≤ 1024) :
    (Tunnel.simpleSetup.module.serverDecode (.ofBlock (Tunnel.simpleSetup.module.clientEncode q).bytes)).Same q :=
  (Tunnel.simpleProxy_lawful (fun _ => 0) (Tunnel.chunkQuery 0 []) ⟨.ofBlock [65], none⟩ 9000).1.client q h

end SnakeSocks.Socks5
