import SnakeSocks.Module.SeProxy

/-!
# A whole `se_proxy` session

Authentication (`client_make_auth_query`, `server_make_auth_reply`, `client_deal_auth_reply`) followed by
any number of packets in either direction. Every call gets its own uninitialised memory.
-/

namespace SnakeSocks.SeSession

open ByteLib CMem Aes SeProxy

/-- The authentication exchange between two ends; the result is the two ends, `is_closing` and the
client's verdict. -/
def authenticate (jq jr jd : Junk) (cli srv : ConnectInfo) (r : Fin (2 ^ 31)) :
    Except Fault (ConnectInfo × ConnectInfo × Bool × Bool) := do
  let (cli, query) ← clientMakeAuthQuery jq cli
  let (srv, reply, isClosing) ← serverMakeAuthReply jr srv query r
  let (cli, ok) ← clientDealAuthReply jd cli reply
  return (cli, srv, isClosing, ok)

inductive Dir where
  | toServer
  | toClient
deriving DecidableEq

/-- One packet of the session with the memory its encoder and its decoder find. -/
structure Msg where
  dir : Dir
  query : ClientQuery
  jenc : Junk
  jdec : Junk
  stack : ClientQuery

/-- Encode at one end, decode at the other. -/
def exchange (cli srv : ConnectInfo) (m : Msg) : Except Fault ClientQuery :=
  match m.dir with
  | .toServer => do
    let b ← clientEncode m.jenc cli m.query
    serverDecode m.jdec m.stack srv b
  | .toClient => do
    let b ← serverEncode m.jenc srv m.query
    clientDecode m.jdec m.stack cli b

/-- The packets of a session, in order. -/
def exchangeAll (cli srv : ConnectInfo) : List Msg → Except Fault (List ClientQuery)
  | [] => .ok []
  | m :: ms => do
    let q ← exchange cli srv m
    let qs ← exchangeAll cli srv ms
    return q :: qs

/-! ## Authentication -/

theorem take_bytes (b : BinarySafeString) : b.bytes.take b.length.toNat = b.bytes := by
  rw [← b.length_bytes, List.take_length]

/-- The text the server sends back. -/
def replyText (r : Nat) : Bytes := magicStr ++ 0x5f :: decimal r

theorem length_replyText (r : Fin (2 ^ 31)) :
    10 ≤ (replyText r).length ∧ (replyText r).length ≤ 19 ∧ (replyText r).length = 9 + (decimal r).length := by
  have h0 := length_decimal_pos r.val
  have h1 : (decimal r.val).length ≤ 10 := length_decimal_le (by omega) (by have := r.isLt; omega)
  simp only [replyText, magicStr, List.length_append, List.length_cons, List.length_nil]
  omega

theorem clientMakeAuthQuery_eq (junk : Junk) (conn : ConnectInfo) :
    clientMakeAuthQuery junk conn = .ok ({ conn with additionalInfo := none },
      .ofBlock (encFirst (rkeyOf conn.passphrase.bytes) (fillPad authStr))) := by
  have hz := memset_all (malloc (junk 0) (roundUp authStr.length 16)) (0 : UInt8)
  rw [length_malloc] at hz
  have he := @aesEncrypt_fill (fun k => junk (k + 1)) authStr conn.passphrase.bytes
    (List.replicate (roundUp authStr.length 16) 0) authStr.length conn.passphrase.length.toNat le_rfl (by simp) (by simp)
  rw [take_bytes, List.take_length, staged_eq (by decide) (by simp)] at he
  rw [clientMakeAuthQuery, hz, ok_bind, he]
  rfl

/-- A `sym_passphrase` block with the key written behind its length field. -/
theorem symPassphrase_eq {n : Nat} {blk key : Bytes} (hn : n = key.length)
    (hk : slice blk 8 n = key) (hl : 8 + n ≤ blk.length) :
    ∃ pw, symPassphrase n blk = .ok pw ∧ pw.pwlen = n ∧ pw.key = key := by
  have h : n ≤ (blk.drop 8).length := by simp; omega
  refine ⟨⟨n, blk.drop 8, h⟩, by simp only [symPassphrase, dif_pos h], rfl, ?_⟩
  simpa [SymPassphrase.key, slice] using hk

/-- `AESDecrypt` over what `AESEncrypt` made of a short text under the same passphrase. -/
theorem decrypt_text (junk : Junk) (pass : BinarySafeString) (j : Nat → UInt8) (text : Bytes)
    (ht : text.length ≤ 19) :
    let b := BinarySafeString.ofBlock (encFirst (rkeyOf pass.bytes) (fillPad text))
    aesDecrypt junk b.bytes pass.bytes (malloc j b.length.toNat) b.length.toNat pass.length.toNat 0 =
      .ok (text.length, fillPad text) := by
  intro b
  have hb := roundUp_bounds text.length
  have hp := length_fillPad text
  have hl := length_encFirst (rkeyOf pass.bytes) (fillPad text) (by omega)
  have hbl : b.length.toNat = roundUp text.length 16 := by
    rw [BinarySafeString.ofBlock_length (by omega), hl, hp]
  have hbb : b.bytes = encFirst (rkeyOf pass.bytes) (fillPad text) :=
    BinarySafeString.ofBlock_bytes (by omega)
  have hd := @aesDecrypt_encFirst junk text pass.bytes (malloc j (roundUp text.length 16)) pass.length.toNat
    (by simp) (by simp) (by omega)
  rw [take_bytes] at hd
  rw [hbl, hbb]
  exact hd

/-- The call of `AESDecrypt` with which either end reads what the other sent during authentication. -/
def decryptWith (junk : Junk) (pass data : BinarySafeString) : Except Fault (Nat × Bytes) :=
  aesDecrypt (fun k => junk (k + 1)) data.bytes pass.bytes (malloc (junk 0) data.length.toNat) data.length.toNat
    pass.length.toNat 0

theorem decryptWith_eq (junk : Junk) (pass : BinarySafeString) {data : BinarySafeString} (h16 : 16 ≤ data.length.toNat) :
    decryptWith junk pass data = .ok (sizeT (data.length.toNat - schar ((decFirst (rkeyOf pass.bytes) data.bytes).getD
      (data.length.toNat - 1) 0)), decFirst (rkeyOf pass.bytes) data.bytes) := by
  have hlt := data.length.toNat_lt
  have hb := data.length_bytes
  have hd := aesDecrypt_fill (fun k => junk (k + 1)) data.bytes pass.bytes (malloc (junk 0) data.length.toNat)
    pass.length_bytes.ge (by simp) (by omega) (by omega)
  rwa [take_bytes, hb, staged_eq (by omega) (by simp)] at hd

/-- A query that decrypts to `AUTH_STR` is accepted. -/
theorem serverMakeAuthReply_of_match (junk : Junk) (conn : ConnectInfo) {data : BinarySafeString} (r : Fin (2 ^ 31)) {rlen : Nat}
    {request : Bytes} (hdec : decryptWith junk conn.passphrase data = .ok (rlen, request))
    (hcmp : strfullcmp request authStr rlen authStr.length = .ok true) :
    ∃ pw, pw.pwlen = 1 + (decimal r).length ∧ pw.key = 0x5f :: decimal r ∧
      serverMakeAuthReply junk conn data r = .ok ({ conn with additionalInfo := some pw },
        .ofBlock (encFirst (rkeyOf conn.passphrase.bytes) (fillPad (replyText r))), false) := by
  obtain ⟨h10, h19, hlen⟩ := length_replyText r
  have hex : exceedingSize = 512 := rfl
  have hb := roundUp_bounds (replyText r).length
  -- the text is printed into a block of exceedingSize bytes and enciphered from there
  obtain ⟨enc, henc⟩ : ∃ e, e = splice (malloc (junk 2) exceedingSize) 0 (replyText r ++ [0]) := ⟨_, rfl⟩
  have hs1 : sprintf (malloc (junk 2) exceedingSize) 0 (replyText r) = .ok ((replyText r).length, enc) := by
    rw [sprintf, store_ok (by simp; omega), henc]
    rfl
  have htake : enc.take (replyText r).length = replyText r := by
    rw [henc, splice_zero, List.append_assoc, List.take_left]
  have hel : enc.length = exceedingSize := by rw [henc, length_splice (by simp; omega), length_malloc]
  have haes := @aesEncrypt_fill (fun k => junk (k + 4)) enc conn.passphrase.bytes
    (malloc (junk 3) (roundUp (replyText r).length 16)) (replyText r).length conn.passphrase.length.toNat
    (by omega) (by simp) (by simp)
  rw [htake, take_bytes, staged_eq (by simp; omega) (by simp)] at haes
  -- the session key goes behind the length field of the zeroed `additional_info`
  have hz := memset_all (malloc (junk 6) exceedingSize) (0 : UInt8)
  rw [length_malloc] at hz
  obtain ⟨blk, hblk⟩ : ∃ b, b = splice (List.replicate exceedingSize (0 : UInt8)) 8 (0x5f :: decimal r ++ [0]) := ⟨_, rfl⟩
  have hs2 : sprintf (List.replicate exceedingSize 0) 8 (0x5f :: decimal r) = .ok ((0x5f :: decimal r).length, blk) := by
    rw [sprintf, store_ok (by simp; omega), hblk]
    rfl
  have hbl : blk.length = exceedingSize := by rw [hblk, length_splice (by simp; omega), List.length_replicate]
  have hkey : slice blk 8 (0x5f :: decimal r).length = 0x5f :: decimal r := by
    have h := slice_splice_same (List.replicate exceedingSize (0 : UInt8)) 8 (0x5f :: decimal r ++ [0])
      (by simp; omega)
    rw [← hblk] at h
    exact slice_of_append h
  obtain ⟨pw, hpw, hpl, hpk⟩ := symPassphrase_eq rfl hkey (by simp; omega)
  refine ⟨pw, by rw [hpl]; simp; omega, hpk, ?_⟩
  simp only [serverMakeAuthReply]
  rw [← decryptWith, hdec]
  simp only [ok_bind, hcmp, Bool.not_true, Bool.false_eq_true, if_false]
  rw [show magicStr ++ 0x5f :: decimal r = replyText r from rfl, hs1]
  simp only [ok_bind]
  rw [haes, ok_bind, hz, ok_bind, hs2]
  simp only [ok_bind]
  rw [hpw]
  rfl

/-- The server accepts a query made with its own passphrase. -/
theorem serverMakeAuthReply_accepts (junk : Junk) (conn : ConnectInfo) (r : Fin (2 ^ 31)) :
    ∃ pw, pw.pwlen = 1 + (decimal r).length ∧ pw.key = 0x5f :: decimal r ∧
      serverMakeAuthReply junk conn (.ofBlock (encFirst (rkeyOf conn.passphrase.bytes) (fillPad authStr))) r =
        .ok ({ conn with additionalInfo := some pw },
          .ofBlock (encFirst (rkeyOf conn.passphrase.bytes) (fillPad (replyText r))), false) :=
  serverMakeAuthReply_of_match junk conn r
    (decrypt_text (fun k => junk (k + 1)) conn.passphrase (junk 0) authStr (by decide)) (by decide)

section
variable {junk : Junk} {conn : ConnectInfo} {reply : BinarySafeString} {rlen : Nat} {text : Bytes}

/-- The prefix test of `client_deal_auth_reply`. -/
theorem strncmp_magic (hl : 8 ≤ text.length) :
    strncmp text (magicStr ++ [0]) magicStr.length = .ok (decide (magicStr <+: text)) :=
  strncmp_prefix [0] (by simp [magicStr]) hl

theorem clientDealAuthReply_other (hdec : decryptWith junk conn.passphrase reply = .ok (rlen, text))
    (hl : 8 ≤ text.length) (hpre : ¬magicStr <+: text) : clientDealAuthReply junk conn reply = .ok (conn, false) := by
  have hcmp := strncmp_magic hl
  rw [decide_eq_false hpre] at hcmp
  simp only [clientDealAuthReply]
  rw [← decryptWith, hdec]
  simp only [ok_bind, hcmp]
  rfl

/-- Behind the magic prefix everything up to the unpadded length is kept. -/
theorem clientDealAuthReply_of_match (hdec : decryptWith junk conn.passphrase reply = .ok (rlen, text))
    (hpre : magicStr <+: text) (h8 : 8 ≤ rlen) (hle : rlen ≤ text.length) (h32 : rlen < 2 ^ 32) :
    ∃ pw, pw.pwlen = rlen - 8 ∧ pw.key = slice text 8 (rlen - 8) ∧
      clientDealAuthReply junk conn reply = .ok ({ conn with additionalInfo := some pw }, true) := by
  have hm : magicStr.length = 8 := rfl
  have hcmp := strncmp_magic (h8.trans hle)
  rw [decide_eq_true hpre] at hcmp
  obtain ⟨n, hn⟩ : ∃ n, n = rlen - 8 := ⟨_, rfl⟩
  have htmp : sizeT ((rlen : Int) - (magicStr.length : Int)) = n := by unfold sizeT; omega
  have hsz : sizeT (16 + (n : Int)) = 16 + n := by unfold sizeT; omega
  have hz := memset_all (malloc (junk 2) (16 + n)) (0 : UInt8)
  rw [length_malloc] at hz
  have hsl : (slice text 8 n).length = n := length_slice (by omega)
  obtain ⟨b0, hb0⟩ : ∃ b, b = splice (List.replicate (16 + n) (0 : UInt8)) 0 (leBytes 8 n) := ⟨_, rfl⟩
  have l0 : b0.length = 16 + n := by rw [hb0, length_splice (by simp; omega), List.length_replicate]
  obtain ⟨blk, hblk⟩ : ∃ b, b = splice b0 8 (slice text 8 n) := ⟨_, rfl⟩
  have hbl : blk.length = 16 + n := by rw [hblk, length_splice (by omega), l0]
  have hkey : slice blk 8 n = slice text 8 n := by
    have h := slice_splice_same b0 8 (slice text 8 n) (by omega)
    rwa [← hblk, hsl] at h
  obtain ⟨pw, hpw, hpl, hpk⟩ := symPassphrase_eq hsl.symm hkey (by omega)
  refine ⟨pw, by rw [hpl, hn], by rw [hpk, hn], ?_⟩
  simp only [clientDealAuthReply]
  rw [← decryptWith, hdec]
  simp only [ok_bind, hcmp, Bool.not_true, Bool.false_eq_true, if_false]
  rw [htmp, hsz, hz, ok_bind, store_ok (by simp; omega), ok_bind, ← hb0, memcpy_ok (by omega) (by omega), ok_bind,
    hm, ← hblk, hpw]
  rfl

end

/-- The client accepts the reply and keeps everything behind the magic prefix. -/
theorem clientDealAuthReply_accepts (junk : Junk) (conn : ConnectInfo) (r : Fin (2 ^ 31)) :
    ∃ pw, pw.pwlen = 1 + (decimal r).length ∧ pw.key = 0x5f :: decimal r ∧
      clientDealAuthReply junk conn (.ofBlock (encFirst (rkeyOf conn.passphrase.bytes) (fillPad (replyText r)))) =
        .ok ({ conn with additionalInfo := some pw }, true) := by
  obtain ⟨h10, h19, hlen⟩ := length_replyText r
  have hb := roundUp_bounds (replyText r).length
  have hp := length_fillPad (replyText r)
  have hm : magicStr.length = 8 := rfl
  -- the decrypted reply is the magic prefix, the key and the padding
  obtain ⟨rest, hrest⟩ : ∃ rest, fillPad (replyText r) = magicStr ++ ((0x5f :: decimal r) ++ rest) := by
    simp only [fillPad, replyText, List.append_assoc]
    exact ⟨_, rfl⟩
  have hn : (replyText r).length - 8 = (0x5f :: decimal r).length := by rw [List.length_cons]; omega
  have hkeyText : slice (fillPad (replyText r)) 8 ((replyText r).length - 8) = 0x5f :: decimal r := by
    rw [hrest, ← hm, slice_append_right le_rfl, Nat.sub_self, hm, hn, slice_append_left (by omega), slice_all]
  obtain ⟨pw, hpl, hpk, hok⟩ := clientDealAuthReply_of_match
    (decrypt_text (fun k => junk (k + 1)) conn.passphrase (junk 0) _ h19) (by rw [hrest]; exact List.prefix_append _ _)
    (by omega) (by omega) (by omega)
  exact ⟨pw, by rw [hpl]; omega, by rw [hpk, hkeyText], hok⟩

/-! ## Refusal

`server_make_auth_reply` refuses with a one-byte reply, and `client_deal_auth_reply` puts whatever it is
given through the block cipher. -/

/-- What a refusal comes to at the client when it is understood: every access stayed inside the reply's
buffers, the verdict is `false` and no session key is installed. -/
def Understood (result : Except Fault (ConnectInfo × Bool)) : Prop :=
  ∃ conn, result = .ok (conn, false) ∧ conn.additionalInfo = none

/-- Every refusal is the same single byte. -/
theorem serverMakeAuthReply_refuses {junk : Junk} {conn conn' : ConnectInfo} {data reply : BinarySafeString}
    {r : Fin (2 ^ 31)} (h : serverMakeAuthReply junk conn data r = .ok (conn', reply, true)) :
    reply = .ofBlock [1] := by
  simp only [serverMakeAuthReply] at h
  obtain ⟨⟨rlen, request⟩, -, h⟩ := bind_eq_ok.1 h
  obtain ⟨same, -, h⟩ := bind_eq_ok.1 h
  cases same with
  | false =>
    cases h
    rfl
  | true =>
    -- the accepting branch ends with is_closing = false
    obtain ⟨_, -, h⟩ := bind_eq_ok.1 h
    obtain ⟨_, -, h⟩ := bind_eq_ok.1 h
    obtain ⟨_, -, h⟩ := bind_eq_ok.1 h
    obtain ⟨_, -, h⟩ := bind_eq_ok.1 h
    obtain ⟨_, -, h⟩ := bind_eq_ok.1 h
    cases h

/-- A reply shorter than a block takes `AES_ECB_decrypt` past the end of it. -/
theorem clientDealAuthReply_short (junk : Junk) (conn : ConnectInfo) {reply : BinarySafeString}
    (h : reply.length.toNat < 16) : clientDealAuthReply junk conn reply = .error .readOutside := by
  have hb := reply.length_bytes
  have hd := aesDecrypt_short (fun k => junk (k + 1)) reply.bytes conn.passphrase.bytes
    (malloc (junk 0) reply.length.toNat) conn.passphrase.length_bytes.ge (by rw [length_malloc, hb]) (by omega)
  rw [hb] at hd
  rw [clientDealAuthReply, hd]
  rfl

/-- **No refusal is understood**: whatever the two passphrases and the query, the client reads outside the
one-byte reply before it can return anything. -/
theorem refusal_never_understood (jr jd : Junk) (srv srv' cli : ConnectInfo) (query reply : BinarySafeString)
    (r : Fin (2 ^ 31)) (h : serverMakeAuthReply jr srv query r = .ok (srv', reply, true)) :
    clientDealAuthReply jd cli reply = .error .readOutside ∧ ¬Understood (clientDealAuthReply jd cli reply) := by
  have hlen : reply.length.toNat < 16 := by
    rw [serverMakeAuthReply_refuses h]
    decide
  have hd := clientDealAuthReply_short jd cli hlen
  refine ⟨hd, ?_⟩
  rintro ⟨conn, hc, -⟩
  rw [hd] at hc
  cases hc

/-- A query of at least a block whose unpadded length is not that of `AUTH_STR` is refused. -/
theorem serverMakeAuthReply_wrong_length (junk : Junk) (conn : ConnectInfo) {data : BinarySafeString} (r : Fin (2 ^ 31))
    (h16 : 16 ≤ data.length.toNat)
    (hne : sizeT (data.length.toNat - schar ((decFirst (rkeyOf conn.passphrase.bytes) data.bytes).getD
      (data.length.toNat - 1) 0)) ≠ authStr.length) :
    serverMakeAuthReply junk conn data r = .ok (conn, .ofBlock [1], true) := by
  simp only [serverMakeAuthReply]
  rw [← decryptWith, decryptWith_eq junk conn.passphrase h16, ok_bind]
  simp only [strfullcmp, if_pos hne]
  rfl

/-- The query of a client with passphrase `b` is refused by a server with passphrase `a`. -/
theorem wrong_passphrase_refused :
    ∃ query, clientMakeAuthQuery (fun _ _ => 7) ⟨.ofBlock [0x62], none⟩ = .ok (⟨.ofBlock [0x62], none⟩, query) ∧
      serverMakeAuthReply (fun _ _ => 8) ⟨.ofBlock [0x61], none⟩ query 0 =
        .ok (⟨.ofBlock [0x61], none⟩, .ofBlock [1], true) :=
  ⟨_, clientMakeAuthQuery_eq (fun _ _ => 7) ⟨.ofBlock [0x62], none⟩,
    serverMakeAuthReply_wrong_length _ _ _ (by decide +kernel) (by decide +kernel)⟩

theorem refusal_never_understood_wrong_passphrase :
    ∃ query, clientMakeAuthQuery (fun _ _ => 7) ⟨.ofBlock [0x62], none⟩ = .ok (⟨.ofBlock [0x62], none⟩, query) ∧
      ∃ srv reply, serverMakeAuthReply (fun _ _ => 8) ⟨.ofBlock [0x61], none⟩ query 0 = .ok (srv, reply, true) ∧
        clientDealAuthReply (fun _ _ => 9) ⟨.ofBlock [0x62], none⟩ reply = .error .readOutside := by
  obtain ⟨query, hq, hs⟩ := wrong_passphrase_refused
  exact ⟨query, hq, _, _, hs, (refusal_never_understood _ _ _ _ _ _ _ _ hs).1⟩

/-- That client is not told: its own code leaves the reply's buffer. -/
theorem refusal_read_past_reply :
    ¬∀ (jr jd : Junk) (srv srv' : ConnectInfo) (pass query reply : BinarySafeString) (r : Fin (2 ^ 31)),
      serverMakeAuthReply jr srv query r = .ok (srv', reply, true) →
        Understood (clientDealAuthReply jd ⟨pass, none⟩ reply) := by
  intro h
  obtain ⟨query, -, hs⟩ := wrong_passphrase_refused
  obtain ⟨conn, hc, -⟩ := h _ (fun _ _ => 9) _ _ (.ofBlock [0x62]) _ _ _ hs
  rw [clientDealAuthReply_short _ _ (by decide)] at hc
  cases hc

/-! ## The session -/

/-- After authentication both ends hold the same key. -/
theorem authenticate_ok (jq jr jd : Junk) (pass : BinarySafeString) (ic is : Option SymPassphrase)
    (r : Fin (2 ^ 31)) :
    ∃ kc ks, kc.pwlen = ks.pwlen ∧ kc.key = ks.key ∧
      authenticate jq jr jd ⟨pass, ic⟩ ⟨pass, is⟩ r = .ok (⟨pass, some kc⟩, ⟨pass, some ks⟩, false, true) := by
  obtain ⟨ks, hks, hksk, hs⟩ := serverMakeAuthReply_accepts jr ⟨pass, is⟩ r
  obtain ⟨kc, hkc, hkck, hc⟩ := clientDealAuthReply_accepts jd ⟨pass, none⟩ r
  refine ⟨kc, ks, by rw [hkc, hks], by rw [hkck, hksk], ?_⟩
  simp only [authenticate]
  rw [clientMakeAuthQuery_eq, ok_bind]
  simp only
  rw [hs]
  simp only [ok_bind]
  rw [hc]
  rfl

/-- One packet, in either direction. -/
theorem exchange_same (pass : BinarySafeString) {kc ks : SymPassphrase} (hk : kc.key = ks.key) (m : Msg)
    (hm : m.query.payload.length.toNat ≤ 64 * 1024 * 1024) :
    ∃ q, exchange ⟨pass, some kc⟩ ⟨pass, some ks⟩ m = .ok q ∧ q.Same m.query := by
  obtain ⟨dir, query, jenc, jdec, stack⟩ := m
  cases dir with
  | toServer =>
    obtain ⟨b, q, he, hd, hs⟩ := decode_encode jenc jdec stack pass pass hk hm
    refine ⟨q, ?_, hs⟩
    simp only [exchange, clientEncode, serverDecode]
    rw [he, ok_bind, hd]
  | toClient =>
    obtain ⟨b, q, he, hd, hs⟩ := decode_encode jenc jdec stack pass pass hk.symm hm
    refine ⟨q, ?_, hs⟩
    simp only [exchange, serverEncode, clientDecode]
    rw [he, ok_bind, hd]

/-- A run of packets: the encoders and decoders keep no state, so each packet stands alone. -/
theorem exchangeAll_same {pass : BinarySafeString} {kc ks : SymPassphrase} (hk : kc.key = ks.key) (ms : List Msg)
    (h : ∀ m ∈ ms, m.query.payload.length.toNat ≤ 64 * 1024 * 1024) :
    ∃ qs, exchangeAll ⟨pass, some kc⟩ ⟨pass, some ks⟩ ms = .ok qs ∧
      List.Forall₂ ClientQuery.Same qs (ms.map Msg.query) := by
  induction ms with
  | nil => exact ⟨[], rfl, .nil⟩
  | cons m ms ih =>
    obtain ⟨q, hq, hs⟩ := exchange_same pass hk m (h m (by simp))
    obtain ⟨qs, hqs, hss⟩ := ih fun x hx => h x (by simp [hx])
    refine ⟨q :: qs, ?_, .cons hs hss⟩
    simp only [exchangeAll]
    rw [hq, ok_bind, hqs]
    rfl

/-- **Session correctness.** With the same passphrase on both ends and any value of `rand()`, the
exchange ends with the connection kept, the client satisfied and the same session key on both sides, and
from then on every packet in either direction arrives as it was sent. -/
theorem session_correct (jq jr jd : Junk) (pass : BinarySafeString) (ic is : Option SymPassphrase)
    (r : Fin (2 ^ 31)) (ms : List Msg) (hms : ∀ m ∈ ms, m.query.payload.length.toNat ≤ 64 * 1024 * 1024) :
    ∃ cli srv kc ks, authenticate jq jr jd ⟨pass, ic⟩ ⟨pass, is⟩ r = .ok (cli, srv, false, true) ∧
      cli.additionalInfo = some kc ∧ srv.additionalInfo = some ks ∧ kc.pwlen = ks.pwlen ∧ kc.key = ks.key ∧
      ∃ qs, exchangeAll cli srv ms = .ok qs ∧ List.Forall₂ ClientQuery.Same qs (ms.map Msg.query) := by
  obtain ⟨kc, ks, hpl, hkey, ha⟩ := authenticate_ok jq jr jd pass ic is r
  exact ⟨_, _, kc, ks, ha, rfl, rfl, hpl, hkey, exchangeAll_same hkey ms hms⟩

/-- The empty passphrase, `rand() = 0` and two packets, one of them empty. -/
theorem session_correct_two_packets :
    ∃ cli srv kc ks, authenticate (fun _ _ => 7) (fun _ _ => 8) (fun _ _ => 9) ⟨.null false, none⟩
        ⟨.null false, none⟩ 0 = .ok (cli, srv, false, true) ∧
      cli.additionalInfo = some kc ∧ srv.additionalInfo = some ks ∧ kc.pwlen = ks.pwlen ∧ kc.key = ks.key ∧
      ∃ qs, exchangeAll cli srv
          [⟨.toServer, ⟨ip16 [1, 2, 3, 4], 80, .ofBlock [0x47, 0x45]⟩, fun _ _ => 1, fun _ _ => 2,
            ⟨ip16 [], 0, .null true⟩⟩,
          ⟨.toClient, ⟨ip16 [], 0, .null false⟩, fun _ _ => 3, fun _ _ => 4, ⟨ip16 [], 5, .null true⟩⟩] = .ok qs ∧
        List.Forall₂ ClientQuery.Same qs
          [⟨ip16 [1, 2, 3, 4], 80, .ofBlock [0x47, 0x45]⟩, ⟨ip16 [], 0, .null false⟩] := by
  refine session_correct _ _ _ _ _ _ _ _ (fun m hm => ?_)
  simp only [List.mem_cons, List.not_mem_nil, or_false] at hm
  rcases hm with rfl | rfl
  · decide
  · decide

end SnakeSocks.SeSession
