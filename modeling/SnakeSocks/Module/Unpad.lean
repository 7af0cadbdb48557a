import SnakeSocks.Module.SeSession

/-!
# The pad count of a received message

`AESDecrypt` returns `srclen - result[srclen-1]` in fill mode (`aes.c:73`): a `size_t` less a signed `char` that nobody
checks. Blocks behind the first pass through unchanged, so the peer writes that byte itself. `unpad_bound_iff` says when
the length is one of the message, for `AESDecrypt` and for its callers, and `session_key_iff` when
`client_deal_auth_reply` can cut the session key out of the reply.
-/

namespace SnakeSocks.Unpad

open ByteLib CMem KokkeAes Aes SeProxy SeSession

/-! ## `AESDecrypt` -/

/-- The byte that is taken for the pad count: one that came through `InvCipher` if there is a single block, else the last
one received. Of a message of `2 ^ 32` bytes or more the end is not copied, and the byte is what the result held. -/
def padByte (k src result : Bytes) : UInt8 :=
  if src.length = 16 then (invAes128 k src).getD 15 0
  else if src.length < 2 ^ 32 then src.getD (src.length - 1) 0
  else result.getD (src.length - 1) 0

/-- A pad count that can be taken off `n` bytes. -/
def Removable (n : Nat) (pad : UInt8) : Prop := pad.toNat < 128 ∧ pad.toNat ≤ n

instance (n : Nat) (pad : UInt8) : Decidable (Removable n pad) := inferInstanceAs (Decidable (_ ∧ _))

theorem getD_decFirst (k buf : Bytes) {i : Nat} (hi : 16 ≤ i) :
    (decFirst k buf).getD i 0 = buf.getD i 0 := by
  have hk : (invAes128 k (buf.take 16)).length = 16 := length_invAes128 _ _
  rw [decFirst, List.getD_eq_getElem?_getD, List.getElem?_append_right (by omega), hk, List.getElem?_drop,
    List.getD_eq_getElem?_getD, show 16 + (i - 16) = i by omega]

theorem last_decrypted (k : Bytes) {src result : Bytes} (h16 : 16 ≤ src.length) (hr : src.length ≤ result.length) :
    (decFirst k (staged src result)).getD (src.length - 1) 0 = padByte k src result := by
  have hst := length_staged hr
  unfold padByte
  split
  · next h =>
    have htake : (staged src result).take 16 = src := by
      rw [staged, h, Nat.mod_eq_of_lt (by omega), splice_zero, List.take_of_length_le (by omega : src.length ≤ 16),
        List.take_left' h]
    have hk : (invAes128 k src).length = 16 := length_invAes128 _ _
    rw [decFirst, htake, h, List.getD_eq_getElem?_getD, List.getElem?_append_left (by omega), List.getD_eq_getElem?_getD]
  · next hne =>
    rw [getD_decFirst k _ (by omega)]
    split
    · next h32 =>
      rw [staged, Nat.mod_eq_of_lt h32, List.take_length, splice_zero, List.getD_eq_getElem?_getD,
        List.getElem?_append_left (by omega), List.getD_eq_getElem?_getD]
    · next h32 =>
      -- the copy ends before the last byte
      have hm : src.length % 2 ^ 32 ≤ src.length - 1 := by omega
      have hl : (src.take (src.length % 2 ^ 32)).length = src.length % 2 ^ 32 := by simp; omega
      rw [staged, splice_zero, hl, List.getD_eq_getElem?_getD, List.getElem?_append_right (by omega), hl,
        List.getElem?_drop, List.getD_eq_getElem?_getD, Nat.add_sub_cancel' hm]

theorem removable_iff {n : Nat} (h : n < 2 ^ 64) (pad : UInt8) :
    (sizeT (n - schar pad) ≤ n ∧ (sizeT (n - schar pad) : Int) = n - schar pad) ↔ Removable n pad := by
  have hp := pad.toNat_lt
  unfold sizeT schar Removable
  split <;> omega

/-- A `uint32_t` keeps 32 bits of the difference. -/
theorem removable_iff_field {n : Nat} (h : n < 2 ^ 32) (pad : UInt8) :
    sizeT (n - schar pad) % 2 ^ 32 ≤ n ↔ Removable n pad ∨ (128 ≤ pad.toNat ∧ 2 ^ 32 + pad.toNat ≤ n + 256) := by
  have hp := pad.toNat_lt
  unfold sizeT schar Removable
  split <;> omega

/-! ## Its callers -/

section
variable {data : BinarySafeString}

/-- The pad count of a received packet, which is shorter than `2 ^ 32` bytes. -/
def receivedPad (k : Bytes) (data : BinarySafeString) : UInt8 := padByte k data.bytes []

theorem last_received (k : Bytes) (h16 : 16 ≤ data.length.toNat) :
    (decFirst k data.bytes).getD (data.length.toNat - 1) 0 = receivedPad k data := by
  have hlt := data.length.toNat_lt
  have hb := data.length_bytes
  have hlast := @last_decrypted k data.bytes data.bytes (by omega) le_rfl
  rw [staged_eq (by omega) rfl, hb] at hlast
  rw [hlast, receivedPad, padByte, padByte, if_pos (by omega : data.bytes.length < 2 ^ 32),
    if_pos (by omega : data.bytes.length < 2 ^ 32)]

/-- `server_make_auth_reply` looks at ten bytes, and only if the length it was given is ten. -/
theorem serverMakeAuthReply_returns (junk : Junk) (conn : ConnectInfo) (h16 : 16 ≤ data.length.toNat) (r : Fin (2 ^ 31)) :
    ∃ answer, serverMakeAuthReply junk conn data r = .ok answer := by
  have hdec := decryptWith_eq junk conn.passphrase h16
  obtain ⟨rlen, hrlen⟩ : ∃ rlen, rlen = sizeT (data.length.toNat - schar ((decFirst (rkeyOf conn.passphrase.bytes)
      data.bytes).getD (data.length.toNat - 1) 0)) := ⟨_, rfl⟩
  by_cases hne : rlen ≠ authStr.length
  · exact ⟨_, serverMakeAuthReply_wrong_length junk conn r h16 (hrlen ▸ hne)⟩
  · have hten : rlen = authStr.length := not_not.1 hne
    have hauth : authStr.length = 10 := rfl
    have hb := data.length_bytes
    have hl : (decFirst (rkeyOf conn.passphrase.bytes) data.bytes).length = data.length.toNat := by
      simp [decFirst]
      omega
    rw [← hrlen, hten] at hdec
    have hcmp : strfullcmp (decFirst (rkeyOf conn.passphrase.bytes) data.bytes) authStr authStr.length authStr.length =
        .ok (decide (slice (decFirst (rkeyOf conn.passphrase.bytes) data.bytes) 0 authStr.length = authStr)) := by
      rw [strfullcmp, if_neg (by simp), load_ok (by omega), load_ok (by omega), slice_all]
      rfl
    by_cases hsame : slice (decFirst (rkeyOf conn.passphrase.bytes) data.bytes) 0 authStr.length = authStr
    · rw [decide_eq_true hsame] at hcmp
      obtain ⟨pw, -, -, hok⟩ := serverMakeAuthReply_of_match junk conn r hdec hcmp
      exact ⟨_, hok⟩
    · rw [decide_eq_false hsame] at hcmp
      refine ⟨(conn, .ofBlock [1], true), ?_⟩
      simp only [serverMakeAuthReply]
      rw [← decryptWith, hdec]
      simp only [ok_bind, hcmp]
      rfl

end

/-- For every key, message and result buffer: the length `AESDecrypt` returns is the difference, and at most `srclen`, exactly
when the pad count can be taken off. The two decoders go on with a block of `data.length` bytes and a length that is then at
most that; a count of 128 and more adds to it, and only a sum that overflows the `uint32_t` field comes out smaller again.
`server_make_auth_reply` stays inside whatever the count is. -/
theorem unpad_bound_iff (junk : Junk) (src key result : Bytes) (h16 : 16 ≤ src.length) (h64 : src.length < 2 ^ 64)
    (hr : src.length ≤ result.length) (data : BinarySafeString) (hd : 16 ≤ data.length.toNat) (stack : ClientQuery)
    (conn : ConnectInfo) (pass : BinarySafeString) (pw : SymPassphrase) (r : Fin (2 ^ 31)) :
    (∃ m out, aesDecrypt junk src key result src.length key.length 0 = .ok (m, out) ∧
      ((m ≤ src.length ∧ (m : Int) = src.length - schar (padByte (rkeyOf key) src result)) ↔
        Removable src.length (padByte (rkeyOf key) src result))) ∧
    (serverDecode junk stack ⟨pass, some pw⟩ data = unpackQuery (junk 3) stack (plain pw data) (plainLength pw data) ∧
      clientDecode junk stack ⟨pass, some pw⟩ data = unpackQuery (junk 3) stack (plain pw data) (plainLength pw data) ∧
      (plain pw data).length = data.length.toNat ∧
      (plainLength pw data ≤ data.length.toNat ↔ Removable data.length.toNat (receivedPad (rkeyOf pw.key) data) ∨
        (128 ≤ (receivedPad (rkeyOf pw.key) data).toNat ∧
          2 ^ 32 + (receivedPad (rkeyOf pw.key) data).toNat ≤ data.length.toNat + 256))) ∧
    ∃ answer, serverMakeAuthReply junk conn data r = .ok answer := by
  refine ⟨?_, ⟨decode_eq junk stack pass pw data hd, decode_eq junk stack pass pw data hd, length_plain hd, ?_⟩,
    serverMakeAuthReply_returns junk conn hd r⟩
  · have hdec := @aesDecrypt_fill junk src key result key.length le_rfl hr h16 h64
    rw [List.take_length, last_decrypted _ h16 hr] at hdec
    exact ⟨_, _, hdec, removable_iff h64 _⟩
  · rw [plainLength, plain, last_received _ hd]
    exact removable_iff_field data.length.toNat_lt _

/-- Two blocks whose last byte is 16: the length is 16. -/
theorem unpad_bound_iff_full_pad : ∃ m out,
    aesDecrypt (fun _ _ => 0) (List.replicate 31 0 ++ [16]) [7] (List.replicate 32 0) 32 1 0 = .ok (m, out) ∧ m ≤ 32 := by
  obtain ⟨⟨m, out, hdec, hiff⟩, -, -⟩ := unpad_bound_iff (fun _ _ => 0) (List.replicate 31 0 ++ [16]) [7]
    (List.replicate 32 0) (by decide) (by decide) (by decide) (.ofBlock (List.replicate 16 0)) (by decide)
    ⟨ip16 [], 0, .null false⟩ ⟨.null false, none⟩ (.null false) ⟨0, [], by decide⟩ 0
  exact ⟨m, out, hdec, (hiff.2 (by decide)).1⟩

/-- Two blocks whose last byte is `0x80`: 160 bytes of 32. -/
theorem negative_pad_enlarges : ¬∀ (src key result : Bytes), 0 < src.length → src.length % 16 = 0 →
    src.length ≤ result.length → src.length < 2 ^ 64 →
    ∃ m out, aesDecrypt (fun _ _ => 0) src key result src.length key.length 0 = .ok (m, out) ∧ m ≤ src.length := by
  intro hall
  obtain ⟨m, out, hdec, hle⟩ := hall (List.replicate 31 0 ++ [0x80]) [7] (List.replicate 32 0) (by decide) (by decide)
    (by decide) (by decide)
  have hfill := @aesDecrypt_fill (fun _ _ => 0) (List.replicate 31 0 ++ [0x80]) [7] (List.replicate 32 0) 1 le_rfl
    (by decide) (by decide) (by decide)
  rw [last_decrypted _ (by decide) (by decide)] at hfill
  cases hdec.symm.trans hfill
  exact absurd hle (by decide)

/-! ## The session key in a reply -/

/-- What `client_deal_auth_reply` owes: it refuses and keeps no key, or the unpadded length is one of the reply, and it keeps
what stands behind the eight bytes of the magic prefix. -/
def KeyExtracted (junk : Junk) (pass reply : BinarySafeString) : Prop :=
  clientDealAuthReply junk ⟨pass, none⟩ reply = .ok (⟨pass, none⟩, false) ∨
    ∃ rlen text pw, decryptWith junk pass reply = .ok (rlen, text) ∧
      clientDealAuthReply junk ⟨pass, none⟩ reply = .ok (⟨pass, some pw⟩, true) ∧
      8 ≤ rlen ∧ rlen ≤ reply.length.toNat ∧ pw.pwlen = rlen - 8 ∧ pw.key = slice text 8 (rlen - 8)

section
variable {junk : Junk} {pass reply : BinarySafeString}

/-- Behind the prefix test there is no way back to a refusal. -/
theorem not_prefix_of_refused {conn conn' : ConnectInfo} {rlen : Nat} {text : Bytes}
    (hdec : decryptWith junk conn.passphrase reply = .ok (rlen, text)) (hl : 8 ≤ text.length)
    (h : clientDealAuthReply junk conn reply = .ok (conn', false)) : ¬magicStr <+: text := by
  intro hpre
  have hcmp := strncmp_magic hl
  rw [decide_eq_true hpre] at hcmp
  simp only [clientDealAuthReply] at h
  rw [← decryptWith, hdec] at h
  simp only [ok_bind, hcmp, Bool.not_true, Bool.false_eq_true, if_false] at h
  obtain ⟨_, -, h⟩ := bind_eq_ok.1 h
  obtain ⟨_, -, h⟩ := bind_eq_ok.1 h
  obtain ⟨_, -, h⟩ := bind_eq_ok.1 h
  obtain ⟨_, -, h⟩ := bind_eq_ok.1 h
  cases h

theorem decrypted_reply (junk : Junk) (pass : BinarySafeString) (h16 : 16 ≤ reply.length.toNat) :
    decryptWith junk pass reply = .ok (sizeT (reply.length.toNat - schar (receivedPad (rkeyOf pass.bytes) reply)),
        decFirst (rkeyOf pass.bytes) reply.bytes) ∧
      (decFirst (rkeyOf pass.bytes) reply.bytes).length = reply.length.toNat := by
  have hb := reply.length_bytes
  have hdec := decryptWith_eq junk pass h16
  rw [last_received _ h16] at hdec
  refine ⟨hdec, ?_⟩
  simp [decFirst]
  omega

theorem removable_of_keyExtracted (h16 : 16 ≤ reply.length.toNat) (h : KeyExtracted junk pass reply)
    (hpre : magicStr <+: decFirst (rkeyOf pass.bytes) reply.bytes) :
    Removable (reply.length.toNat - 8) (receivedPad (rkeyOf pass.bytes) reply) := by
  obtain ⟨hdec, hl⟩ := decrypted_reply junk pass h16
  rcases h with hno | ⟨rlen, text, pw, hdec', -, h8, hle, -, -⟩
  · exact absurd hpre (not_prefix_of_refused hdec (by omega) hno)
  · cases hdec.symm.trans hdec'
    have hlt := reply.length.toNat_lt
    have hp := (receivedPad (rkeyOf pass.bytes) reply).toNat_lt
    unfold sizeT schar at h8 hle
    unfold Removable
    split at h8 <;> omega

theorem keyExtracted_of_removable (h16 : 16 ≤ reply.length.toNat)
    (hpre : magicStr <+: decFirst (rkeyOf pass.bytes) reply.bytes)
    (h : Removable (reply.length.toNat - 8) (receivedPad (rkeyOf pass.bytes) reply)) : KeyExtracted junk pass reply := by
  obtain ⟨hdec, hl⟩ := decrypted_reply junk pass h16
  obtain ⟨h128, hle⟩ := h
  have hlt := reply.length.toNat_lt
  have hrlen : sizeT (reply.length.toNat - schar (receivedPad (rkeyOf pass.bytes) reply)) =
      reply.length.toNat - (receivedPad (rkeyOf pass.bytes) reply).toNat := by
    unfold sizeT schar
    rw [if_pos h128]
    omega
  rw [hrlen] at hdec
  obtain ⟨pw, hpl, hpk, hok⟩ := @clientDealAuthReply_of_match junk ⟨pass, none⟩ reply _ _ hdec hpre (by omega) (by omega)
    (by omega)
  exact .inr ⟨_, _, pw, hdec, hok, by omega, by omega, hpl, hpk⟩

end

/-- For every passphrase and every reply of at least a block: the key is extracted, or the reply refused, exactly when the
decrypted reply does not start with the magic prefix or its pad count leaves the prefix standing. -/
theorem session_key_iff (junk : Junk) (pass reply : BinarySafeString) (h16 : 16 ≤ reply.length.toNat) :
    KeyExtracted junk pass reply ↔
      ¬magicStr <+: decFirst (rkeyOf pass.bytes) reply.bytes ∨
        Removable (reply.length.toNat - 8) (receivedPad (rkeyOf pass.bytes) reply) := by
  by_cases hpre : magicStr <+: decFirst (rkeyOf pass.bytes) reply.bytes
  · constructor
    · intro h
      exact .inr (removable_of_keyExtracted h16 h hpre)
    · intro h
      exact keyExtracted_of_removable h16 hpre (h.resolve_left (not_not.2 hpre))
  · obtain ⟨hdec, hl⟩ := decrypted_reply junk pass h16
    exact iff_of_true (.inl (@clientDealAuthReply_other junk ⟨pass, none⟩ reply _ _ hdec (by omega) hpre)) (.inl hpre)

/-- A block that decrypts to the prefix, seven bytes and the pad count. -/
def shortReply (pad : UInt8) : BinarySafeString :=
  .ofBlock (encFirst (rkeyOf [0x61]) (magicStr ++ List.replicate 7 0 ++ [pad]))

theorem shortReply_decrypted (pad : UInt8) : (shortReply pad).length.toNat = 16 ∧
    decFirst (rkeyOf [0x61]) (shortReply pad).bytes = magicStr ++ List.replicate 7 0 ++ [pad] ∧
    receivedPad (rkeyOf [0x61]) (shortReply pad) = pad := by
  have hl : (magicStr ++ List.replicate 7 0 ++ [pad]).length = 16 := rfl
  have henc : (encFirst (rkeyOf [0x61]) (magicStr ++ List.replicate 7 0 ++ [pad])).length = 16 := by
    rw [length_encFirst _ _ hl.ge, hl]
  have hlen : (shortReply pad).length.toNat = 16 := (BinarySafeString.ofBlock_length (by omega)).trans henc
  have hdec : decFirst (rkeyOf [0x61]) (shortReply pad).bytes = magicStr ++ List.replicate 7 0 ++ [pad] := by
    rw [shortReply, BinarySafeString.ofBlock_bytes (by omega), decFirst_encFirst _ hl.ge]
  refine ⟨hlen, hdec, ?_⟩
  rw [← last_received _ hlen.ge, hdec, hlen]
  rfl

/-- With a pad count of 3 five bytes are kept. -/
theorem session_key_iff_short_reply : KeyExtracted (fun _ _ => 0) (.ofBlock [0x61]) (shortReply 3) := by
  obtain ⟨hlen, -, hpad⟩ := shortReply_decrypted 3
  refine (session_key_iff _ _ _ hlen.ge).2 (.inr ?_)
  rw [show (BinarySafeString.ofBlock [0x61]).bytes = [0x61] from rfl, hpad, hlen]
  decide

/-- With a pad count of 9 the unpadded length is 7, one less than the prefix, and the client copies `2 ^ 64 - 1` bytes. -/
theorem key_length_underflows : ¬∀ pass reply : BinarySafeString, 0 < reply.length.toNat → reply.length.toNat % 16 = 0 →
    KeyExtracted (fun _ _ => 0) pass reply := by
  intro hall
  obtain ⟨hlen, hdec, hpad⟩ := shortReply_decrypted 9
  have hkey := hall (.ofBlock [0x61]) (shortReply 9) (by omega) (by omega)
  have hbytes : (BinarySafeString.ofBlock [0x61]).bytes = [0x61] := rfl
  have hrem := removable_of_keyExtracted hlen.ge hkey (by
    rw [hbytes, hdec, List.append_assoc]
    exact List.prefix_append _ _)
  rw [hbytes, hpad, hlen] at hrem
  exact absurd hrem (by decide)

end SnakeSocks.Unpad
