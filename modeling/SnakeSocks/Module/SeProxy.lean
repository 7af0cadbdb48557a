import SnakeSocks.Module.Aes
import SnakeSocks.Module.Packet

/-!
# `se_proxy.c`: the AES module

The passphrase only protects the authentication exchange: the server answers a correct query with
`SE_MAGIC_<random>` and both ends keep `_<random>` as the session key in `additional_info`. Packets are
then padded and enciphered with that key.
-/

namespace SnakeSocks.SeProxy

open ByteLib CMem KokkeAes Aes

/-- `AUTH_STR` (`se_proxy.c:11`), without its terminator. -/
def authStr : Bytes := [0x53, 0x45, 0x5f, 0x50, 0x52, 0x4f, 0x58, 0x59, 0x76, 0x31]

/-- `MAGIC_STR` (`se_proxy.c:12`), without its terminator. -/
def magicStr : Bytes := [0x53, 0x45, 0x5f, 0x4d, 0x41, 0x47, 0x49, 0x43]

/-- `EXCEEDING_SIZE` (`se_proxy.c:14`). -/
def exceedingSize : Nat := 512

/-- `strfullcmp` (`se_proxy.c:19`). -/
def strfullcmp (a b : Bytes) (alen blen : Nat) : Except Fault Bool := do
  if alen ≠ blen then
    return false
  let x ← load a 0 alen
  let y ← load b 0 alen
  return x = y

/-- A `sym_passphrase` over a block: `pwlen` is the first eight bytes, `str` the rest. -/
def symPassphrase (pwlen : Nat) (blk : Bytes) : Except Fault SymPassphrase :=
  if h : pwlen ≤ (blk.drop 8).length then .ok ⟨pwlen, blk.drop 8, h⟩ else .error .writeOutside

/-! ## Authentication -/

/-- `client_make_auth_query` (`se_proxy.c:39`). -/
def clientMakeAuthQuery (junk : Junk) (conn : ConnectInfo) :
    Except Fault (ConnectInfo × BinarySafeString) := do
  let query := malloc (junk 0) (roundUp authStr.length 16)
  let query ← memset query 0 0 (roundUp authStr.length 16)
  let query ← aesEncrypt (fun k => junk (k + 1)) authStr conn.passphrase.bytes query authStr.length
    conn.passphrase.length.toNat 0
  return ({ conn with additionalInfo := none }, .ofBlock query)

/-- `client_deal_auth_reply` (`se_proxy.c:54`). -/
def clientDealAuthReply (junk : Junk) (conn : ConnectInfo) (serverReply : BinarySafeString) :
    Except Fault (ConnectInfo × Bool) := do
  let result := malloc (junk 0) serverReply.length.toNat
  let (rlen, result) ← aesDecrypt (fun k => junk (k + 1)) serverReply.bytes conn.passphrase.bytes result
    serverReply.length.toNat conn.passphrase.length.toNat 0
  if !(← strncmp result (magicStr ++ [0]) magicStr.length) then
    return (conn, false)
  let tmplen := sizeT (rlen - magicStr.length)
  -- sizeof(sym_passphrase) is 16
  let blk := malloc (junk 2) (sizeT (16 + tmplen))
  let blk ← memset blk 0 0 (sizeT (16 + tmplen))
  let blk ← store blk 0 (leBytes 8 tmplen)
  let blk ← memcpy blk 8 result magicStr.length tmplen
  let ainfo ← symPassphrase tmplen blk
  return ({ conn with additionalInfo := some ainfo }, true)

/-- `server_make_auth_reply` (`se_proxy.c:145`), with `rand()` returning `tmprnd`; the last component is
`*is_closing`. -/
def serverMakeAuthReply (junk : Junk) (conn : ConnectInfo) (data : BinarySafeString) (tmprnd : Fin (2 ^ 31)) :
    Except Fault (ConnectInfo × BinarySafeString × Bool) := do
  let request := malloc (junk 0) data.length.toNat
  let (rlen, request) ← aesDecrypt (fun k => junk (k + 1)) data.bytes conn.passphrase.bytes request
    data.length.toNat conn.passphrase.length.toNat 0
  if !(← strfullcmp request authStr rlen authStr.length) then
    return (conn, .ofBlock [1], true)
  let tmpenc := malloc (junk 2) exceedingSize
  let (tmpenl, tmpenc) ← sprintf tmpenc 0 (magicStr ++ 0x5f :: decimal tmprnd)
  let str := malloc (junk 3) (roundUp tmpenl 16)
  let str ← aesEncrypt (fun k => junk (k + 4)) tmpenc conn.passphrase.bytes str tmpenl
    conn.passphrase.length.toNat 0
  let blk := malloc (junk 6) exceedingSize
  let blk ← memset blk 0 0 exceedingSize
  let (pwlen, blk) ← sprintf blk 8 (0x5f :: decimal tmprnd)
  let ainfo ← symPassphrase pwlen blk
  return ({ conn with additionalInfo := some ainfo }, .ofBlock str, false)

/-! ## Data packets -/

/-- `(sym_passphrase*)(conn->additional_info)`. -/
def sessionKey (conn : ConnectInfo) : Except Fault SymPassphrase :=
  match conn.additionalInfo with
  | some p => .ok p
  | none => .error .nullPointer

/-- The body of `client_encode` (`se_proxy.c:74`) and `server_encode` (`:189`). -/
def encode (junk : Junk) (conn : ConnectInfo) (payload : ClientQuery) : Except Fault BinarySafeString := do
  let data ← packQuery (junk 0) payload
  let overallSize := data.length
  let encresult := malloc (junk 1) (roundUp overallSize 16)
  let encresult ← memset encresult 0 0 (roundUp overallSize 16)
  let pw ← sessionKey conn
  let encresult ← aesEncrypt (fun k => junk (k + 2)) data pw.str encresult overallSize pw.pwlen 0
  return .ofBlock encresult

/-- The body of `client_decode` (`se_proxy.c:102`) and `server_decode` (`:228`). -/
def decode (junk : Junk) (stack : ClientQuery) (conn : ConnectInfo) (data : BinarySafeString) :
    Except Fault ClientQuery := do
  let tmpresult := malloc (junk 0) data.length.toNat
  let pw ← sessionKey conn
  let (len, tmpresult) ← aesDecrypt (fun k => junk (k + 1)) data.bytes pw.str tmpresult data.length.toNat
    pw.pwlen 0
  -- data.length is a uint32_t
  unpackQuery (junk 3) stack tmpresult (len % 2 ^ 32)

def clientEncode := encode

def serverEncode := encode

def clientDecode := decode

def serverDecode := decode

/-! ## What the encoders and decoders compute -/

/-- The decrypted block of `data`: only its first 16 bytes went through `InvCipher`. -/
def plain (pw : SymPassphrase) (data : BinarySafeString) : Bytes := decFirst (rkeyOf pw.key) data.bytes

/-- The length `AESDecrypt` returns for it, as the `uint32_t` field keeps it. -/
def plainLength (pw : SymPassphrase) (data : BinarySafeString) : Nat :=
  sizeT (data.length.toNat - schar ((plain pw data).getD (data.length.toNat - 1) 0)) % 2 ^ 32

theorem length_plain {pw : SymPassphrase} {data : BinarySafeString} (h : 16 ≤ data.length.toNat) :
    (plain pw data).length = data.length.toNat := by
  simp [plain, decFirst]; omega

theorem decode_eq (junk : Junk) (stack : ClientQuery) (pass : BinarySafeString) (pw : SymPassphrase)
    (data : BinarySafeString) (h : 16 ≤ data.length.toNat) :
    decode junk stack ⟨pass, some pw⟩ data =
      unpackQuery (junk 3) stack (plain pw data) (plainLength pw data) := by
  have hlt := data.length.toNat_lt
  have hb := data.length_bytes
  have hd := aesDecrypt_fill (fun k => junk (k + 1)) data.bytes pw.str
    (malloc (junk 0) data.length.toNat) pw.held (by simp) (by omega) (by omega)
  rw [hb, staged_eq (by omega) (by simp)] at hd
  simp only [decode, sessionKey, ok_bind]
  rw [hd]
  rfl

/-- A packet shorter than a block makes `InvCipher` leave the receive buffer. -/
theorem decode_short (junk : Junk) (stack : ClientQuery) (pass : BinarySafeString) (pw : SymPassphrase)
    (data : BinarySafeString) (h : data.length.toNat < 16) :
    decode junk stack ⟨pass, some pw⟩ data = .error .readOutside := by
  have hb := data.length_bytes
  have hd := aesDecrypt_short (fun k => junk (k + 1)) data.bytes pw.str (malloc (junk 0) data.length.toNat) pw.held
    (by rw [length_malloc, hb]) (by omega)
  rw [hb] at hd
  simp only [decode, sessionKey, ok_bind]
  rw [hd]
  rfl

/-- The encoders always succeed on a session with a key. -/
theorem encode_eq (junk : Junk) (pass : BinarySafeString) (pw : SymPassphrase) (q : ClientQuery) :
    ∃ data, packQuery (junk 0) q = .ok data ∧ Carries data q ∧
      encode junk ⟨pass, some pw⟩ q = .ok (.ofBlock (encFirst (rkeyOf pw.key)
        (staged (fillPad data) (List.replicate (roundUp data.length 16) 0)))) := by
  obtain ⟨data, hp, hc⟩ := packQuery_carries (junk 0) q
  refine ⟨data, hp, hc, ?_⟩
  have hz := memset_all (malloc (junk 1) (roundUp data.length 16)) (0 : UInt8)
  rw [length_malloc] at hz
  have he := aesEncrypt_fill (fun k => junk (k + 2)) data pw.str
    (List.replicate (roundUp data.length 16) 0) le_rfl pw.held (by simp)
  rw [List.take_length] at he
  simp only [encode, hp, ok_bind, sessionKey]
  rw [hz, ok_bind, he]
  rfl

/-- What one end encodes the other end decodes, as soon as both hold the same session key. -/
theorem decode_encode (junk junk' : Junk) (stack : ClientQuery) (pass pass' : BinarySafeString)
    {pw pw' : SymPassphrase} (hkey : pw.key = pw'.key) {q : ClientQuery}
    (hq : q.payload.length.toNat ≤ 64 * 1024 * 1024) :
    ∃ b r, encode junk ⟨pass, some pw⟩ q = .ok b ∧ decode junk' stack ⟨pass', some pw'⟩ b = .ok r ∧ r.Same q := by
  obtain ⟨data, -, hc, he⟩ := encode_eq junk pass pw q
  have hl := hc.length_eq
  have hb := roundUp_bounds data.length
  have hpad := length_fillPad data
  rw [staged_eq (by omega) (by simp)] at he
  have hel := length_encFirst (rkeyOf pw.key) (fillPad data) (by omega)
  have hbl : (BinarySafeString.ofBlock (encFirst (rkeyOf pw.key) (fillPad data))).length.toNat =
      roundUp data.length 16 := by rw [BinarySafeString.ofBlock_length (by omega), hel, hpad]
  -- the receiver's buffer after decryption is the padded packet, and the pad byte gives its length back
  have hplain : plain pw' (.ofBlock (encFirst (rkeyOf pw.key) (fillPad data))) = fillPad data := by
    rw [plain, BinarySafeString.ofBlock_bytes (by omega), ← hkey, decFirst_encFirst _ (by omega)]
  have hlen : plainLength pw' (.ofBlock (encFirst (rkeyOf pw.key) (fillPad data))) = data.length := by
    rw [plainLength, hplain, hbl, getLast_fillPad, schar_ofNat (by omega)]
    unfold sizeT
    omega
  obtain ⟨r, hr, hsame⟩ := unpackQuery_of_carries (junk' 3) stack hc (take_fillPad data)
  refine ⟨_, r, he, ?_, hsame⟩
  rw [decode_eq junk' stack pass' pw' _ (by omega), hplain, hlen]
  exact hr

/-! ## Which bytes go through the cipher

`AESEncrypt` passes the whole padded length down, but the primitive runs `Cipher` once. A packet is at
least 27 bytes, so its second block, which holds port, length and the start of the payload, is never
enciphered. -/

/-- One encoder call: the packet is the ECB encryption of the padded `data_struct` exactly when no block
after the first needed enciphering. -/
theorem encode_isEcb_iff (junk : Junk) (pass : BinarySafeString) (pw : SymPassphrase) (q : ClientQuery) :
    ∃ data out, packQuery (junk 0) q = .ok data ∧ 27 ≤ data.length ∧
      encode junk ⟨pass, some pw⟩ q = .ok (.ofBlock out) ∧
      (IsEcb (rkeyOf pw.key) (fillPad data) out ↔
        TailEnciphered (rkeyOf pw.key) (fillPad data) (List.replicate (roundUp data.length 16) 0)) := by
  obtain ⟨data, hp, hc, he⟩ := encode_eq junk pass pw q
  have hl := hc.length_eq
  have hb := roundUp_bounds data.length
  have hpad := length_fillPad data
  exact ⟨data, _, hp, by omega, he, encFirst_isEcb_iff _ (by omega) (by simp)⟩

/-- **Fill mode is ECB exactly when the blocks after the first did not need enciphering**: for every key,
message and output buffer, for the packets of both encoders, and, below the 32-bit length limit of the
primitive, in terms of the message alone. -/
theorem fill_mode_ecb_iff (junk : Junk) (src key cip : Bytes) (pass : BinarySafeString) (pw : SymPassphrase)
    (q : ClientQuery) (hc : roundUp src.length 16 ≤ cip.length) :
    (∃ out, aesEncrypt junk src key cip src.length key.length 0 = .ok out ∧
      (IsEcb (rkeyOf key) (fillPad src) out ↔ TailEnciphered (rkeyOf key) (fillPad src) cip)) ∧
    (cip.length = roundUp src.length 16 → roundUp src.length 16 < 2 ^ 32 →
      (TailEnciphered (rkeyOf key) (fillPad src) cip ↔
        src.length < 16 ∨ ∀ i, 0 < i → i < roundUp src.length 16 / 16 →
          aes128 (rkeyOf key) (blockAt 16 (fillPad src) i) = blockAt 16 (fillPad src) i)) ∧
    (∃ data out, packQuery (junk 0) q = .ok data ∧ 27 ≤ data.length ∧
      clientEncode junk ⟨pass, some pw⟩ q = .ok (.ofBlock out) ∧
      serverEncode junk ⟨pass, some pw⟩ q = .ok (.ofBlock out) ∧
      (IsEcb (rkeyOf pw.key) (fillPad data) out ↔
        TailEnciphered (rkeyOf pw.key) (fillPad data) (List.replicate (roundUp data.length 16) 0))) := by
  have hb := roundUp_bounds src.length
  have hpad := length_fillPad src
  refine ⟨?_, fun hlen h32 => tailEnciphered_iff h32 hlen, ?_⟩
  · have he := aesEncrypt_fill junk src key cip le_rfl le_rfl hc
    rw [List.take_length, List.take_length] at he
    exact ⟨_, he, encFirst_isEcb_iff _ (by omega) (by omega)⟩
  · obtain ⟨data, out, hp, h27, he, hiff⟩ := encode_isEcb_iff junk pass pw q
    exact ⟨data, out, hp, h27, he, he, hiff⟩

/-- A one-block message: the condition holds and so does the law. -/
theorem fill_mode_ecb_one_block :
    ∃ out, aesEncrypt (fun _ _ => 0) [1, 2, 3] [7] (List.replicate 16 0) 3 1 0 = .ok out ∧
      IsEcb (rkeyOf [7]) (fillPad [1, 2, 3]) out := by
  obtain ⟨⟨out, he, hiff⟩, hcond, -⟩ := fill_mode_ecb_iff (fun _ _ => 0) [1, 2, 3] [7] (List.replicate 16 0)
    (.null false) ⟨0, [], by decide⟩ ⟨ip16 [], 0, .null false⟩ (by decide)
  exact ⟨out, he, hiff.2 ((hcond (by decide) (by decide)).2 (Or.inl (by decide)))⟩

/-- Sixteen zero bytes under the empty key: the second block leaves in clear, and AES would change it. -/
theorem second_block_in_clear :
    ¬∃ out, aesEncrypt (fun _ _ => 0) (List.replicate 16 0) [] (List.replicate 32 0) 16 0 0 = .ok out ∧
      IsEcb (rkeyOf []) (fillPad (List.replicate 16 0)) out := by
  rintro ⟨out, he, hecb⟩
  have h := @aesEncrypt_fill (fun _ _ => 0) (List.replicate 16 0) [] (List.replicate 32 0) 16 0 (by decide)
    (by decide) (by decide)
  rw [he] at h
  cases h
  have h1 := hecb 1 (by decide)
  rw [blockAt_encFirst_succ _ (by decide) (by decide)] at h1
  exact absurd h1 (by decide +kernel)

end SnakeSocks.SeProxy
