import SnakeSocks.Module.Packet

/-!
# `simple_proxy.c`: XOR with a checksum of the passphrase

The client and the server side of the module are textual copies of each other (`simple_proxy.c:38-96`
and `:113-181`); `encode` and `decode` are the copied bodies.
-/

namespace SnakeSocks.SimpleProxy

open ByteLib CMem

/-- `simple_hash` (`simple_proxy.c:7`): a `uint8_t` sum of signed chars. -/
def simpleHash (str : Bytes) : UInt8 := str.foldl (· + ·) 0

def bssHash (bss : BinarySafeString) : UInt8 := simpleHash bss.bytes

/-- The loop `data[i] = data[i] ^ simple_encoder` over the first `n` bytes of a block. -/
def xorLoop (k : UInt8) (n : Nat) (blk : Bytes) : Bytes := (blk.take n).map (· ^^^ k) ++ blk.drop n

def encode (junk : Nat → UInt8) (conn : ConnectInfo) (payload : ClientQuery) :
    Except Fault BinarySafeString := do
  let data ← packQuery junk payload
  return .ofBlock (xorLoop (bssHash conn.passphrase) data.length data)

/-- The block of `data` after the decoding loop. -/
def plain (conn : ConnectInfo) (data : BinarySafeString) : Bytes :=
  xorLoop (bssHash conn.passphrase) data.length.toNat (data.str.getD [])

def decode (junk : Nat → UInt8) (stack : ClientQuery) (conn : ConnectInfo) (data : BinarySafeString) :
    Except Fault ClientQuery :=
  unpackQuery junk stack (plain conn data) data.length.toNat

def clientEncode := encode

def serverEncode := encode

def clientDecode := decode

def serverDecode := decode

/-- `client_make_auth_query` (`simple_proxy.c:20`): the passphrase itself. -/
def clientMakeAuthQuery (junk : Nat → UInt8) (conn : ConnectInfo) : Except Fault BinarySafeString := do
  let str ← memcpy (malloc junk conn.passphrase.length.toNat) 0 conn.passphrase.bytes 0
    conn.passphrase.length.toNat
  return .ofBlock str

/-- `client_deal_auth_reply` (`simple_proxy.c:33`): any non-zero first byte is a yes. -/
def clientDealAuthReply (serverReply : BinarySafeString) : Except Fault Bool := do
  let b ← load (serverReply.str.getD []) 0 1
  return b.getD 0 0 ≠ 0

/-- `server_make_auth_reply` (`simple_proxy.c:99`): accepts everybody. The second component is
`*is_closing`. -/
def serverMakeAuthReply (_conn : ConnectInfo) (_data : BinarySafeString) : BinarySafeString × Bool :=
  (.ofBlock [1], false)

/-! ## The decoders and the length field -/

theorem length_xorLoop (k : UInt8) (n : Nat) (blk : Bytes) : (xorLoop k n blk).length = blk.length := by
  simp [xorLoop]; omega

/-- The XOR leaves the block as long as it was, so only the announced length matters. -/
theorem plszFits_plain_iff (conn : ConnectInfo) (data : BinarySafeString) :
    PlszFits (plain conn data) data.length.toNat ↔
      data.length.toNat ≤ 24 ∨ 24 + plszField (plain conn data) ≤ data.length.toNat := by
  have hl : (plain conn data).length = (data.str.getD []).length := length_xorLoop _ _ _
  have hh := data.held
  unfold PlszFits
  constructor
  · rintro (h | ⟨h, -⟩)
    · exact Or.inl h
    · exact Or.inr h
  · rintro (h | h)
    · exact Or.inl h
    · exact Or.inr ⟨h, by omega⟩

/-! ## The round trip -/

theorem xorLoop_all (k : UInt8) (blk : Bytes) : xorLoop k blk.length blk = blk.map (· ^^^ k) := by simp [xorLoop]

theorem map_xor_map_xor (k : UInt8) (bs : Bytes) : (bs.map (· ^^^ k)).map (· ^^^ k) = bs := by
  have hx : ∀ b : UInt8, b ^^^ k ^^^ k = b := by
    intro b
    rw [UInt8.xor_assoc, UInt8.xor_self, UInt8.xor_zero]
  rw [List.map_map]
  simp [Function.comp_def, hx]

theorem take_plain (conn : ConnectInfo) (data : BinarySafeString) :
    (plain conn data).take data.length.toNat = data.bytes.map (· ^^^ bssHash conn.passphrase) := by
  have hh := data.held
  rw [plain, xorLoop, List.take_left' (by simp [hh]), BinarySafeString.bytes]

section
variable {junk junk' : Nat → UInt8} {stack q : ClientQuery} {conn conn' : ConnectInfo}

/-- The packet is the packed query, each byte masked. -/
theorem encode_bytes (junk : Nat → UInt8) (conn : ConnectInfo) (h : 27 + q.payload.length.toNat < 2 ^ 32) :
    ∃ dat data, encode junk conn q = .ok dat ∧ Carries data q ∧ dat.bytes = data.map (· ^^^ bssHash conn.passphrase) := by
  obtain ⟨data, hpack, hcar⟩ := packQuery_carries junk q
  have hlen := hcar.length_eq
  refine ⟨.ofBlock (xorLoop (bssHash conn.passphrase) data.length data), data, ?_, hcar, ?_⟩
  · rw [encode, hpack]
    rfl
  · rw [BinarySafeString.ofBlock_bytes (by rw [length_xorLoop]; omega), xorLoop_all]

/-- Decoding looks at the bytes alone, whatever block they stand in. -/
theorem decode_of_bytes {data : Bytes} {dat : BinarySafeString} (hcar : Carries data q)
    (h : dat.bytes = data.map (· ^^^ bssHash conn.passphrase)) : ∃ r, decode junk stack conn dat = .ok r ∧ r.Same q := by
  have hlen : dat.length.toNat = data.length := by rw [← dat.length_bytes, h, List.length_map]
  have hpre : (plain conn dat).take data.length = data := by rw [← hlen, take_plain, h, map_xor_map_xor]
  rw [decode, hlen]
  exact unpackQuery_of_carries junk stack hcar hpre

/-- What one side encodes the other decodes, in any block and whatever the unwritten bytes of the packet are. -/
theorem decode_encode (junk junk' : Nat → UInt8) (stack : ClientQuery) (h : 27 + q.payload.length.toNat < 2 ^ 32)
    (hpass : conn.passphrase.bytes = conn'.passphrase.bytes) :
    ∃ dat, encode junk conn q = .ok dat ∧ dat.length.toNat = 27 + q.payload.length.toNat ∧
      ∀ got : BinarySafeString, got.bytes = dat.bytes → ∃ r, decode junk' stack conn' got = .ok r ∧ r.Same q := by
  obtain ⟨dat, data, henc, hcar, hbytes⟩ := encode_bytes junk conn h
  refine ⟨dat, henc, ?_, ?_⟩
  · rw [← dat.length_bytes, hbytes, List.length_map]
    exact hcar.length_eq
  · intro got hgot
    rw [hbytes] at hgot
    exact decode_of_bytes hcar (by rw [hgot, bssHash, bssHash, hpass])

/-- Encoding at one end and decoding at the other, each with its own `connect_info`. -/
theorem decode_encode_between (h : conn.passphrase.bytes = conn'.passphrase.bytes)
    (hq : q.payload.length.toNat ≤ 64 * 1024 * 1024) :
    ∃ dat r, encode junk conn q = .ok dat ∧ decode junk' stack conn' dat = .ok r ∧ r.Same q := by
  have hlt : 27 + q.payload.length.toNat < 2 ^ 32 := by omega
  obtain ⟨dat, henc, -, hdec⟩ := decode_encode junk junk' stack hlt h
  obtain ⟨r, hr, hsame⟩ := hdec dat rfl
  exact ⟨dat, r, henc, hr, hsame⟩

end

/-- For every passphrase that both ends hold, every query with a payload of up to 64 MiB, and whatever the unwritten
bytes of the packet and the decoder's stack are: both directions bring the query back. -/
theorem simple_proxy_round_trip (client server : ConnectInfo) (hpass : client.passphrase.bytes = server.passphrase.bytes)
    (q : ClientQuery) (hq : q.payload.length.toNat ≤ 64 * 1024 * 1024) (junk junk' : Nat → UInt8) (stack : ClientQuery) :
    (∃ dat r, clientEncode junk client q = .ok dat ∧ serverDecode junk' stack server dat = .ok r ∧ r.Same q) ∧
      ∃ dat r, serverEncode junk server q = .ok dat ∧ clientDecode junk' stack client dat = .ok r ∧ r.Same q :=
  ⟨decode_encode_between hpass hq, decode_encode_between hpass.symm hq⟩

/-- The query of `test_endecode`, with the payload `"abc"` and the passphrase `"key"`. -/
theorem simple_proxy_round_trip_test_endecode : ∃ dat r,
    clientEncode (fun _ => 0) ⟨.ofBlock [107, 101, 121], none⟩ ⟨ip16 [54, 44, 64, 14], 6543, .ofBlock [97, 98, 99]⟩ = .ok dat ∧
      serverDecode (fun _ => 255) ⟨Vector.replicate 16 7, 7, .null true⟩ ⟨.ofBlock [107, 101, 121], none⟩ dat = .ok r ∧
      r.Same ⟨ip16 [54, 44, 64, 14], 6543, .ofBlock [97, 98, 99]⟩ :=
  (simple_proxy_round_trip ⟨.ofBlock [107, 101, 121], none⟩ ⟨.ofBlock [107, 101, 121], none⟩ rfl _ (by decide) _ _ _).1

end SnakeSocks.SimpleProxy
