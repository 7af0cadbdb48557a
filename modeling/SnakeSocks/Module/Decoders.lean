import SnakeSocks.Module.SimpleProxy
import SnakeSocks.Module.SeProxy

/-!
# The four decoders against a lying length field

The only check of the decoders is `length <= 24` (`simple_proxy.c:82`, `:168`, `se_proxy.c:128`, `:254`).
The number of bytes to copy is the separate field `plsz`, chosen by the peer, and is compared with nothing.
-/

namespace SnakeSocks.Decoders

open ByteLib CMem

/-- `simple_proxy`: the length of the received string bounds everything. -/
theorem simple_decode_iff (junk : Nat → UInt8) (stack : ClientQuery) (conn : ConnectInfo) (data : BinarySafeString) :
    CopiesInside (SimpleProxy.decode junk stack conn data) (SimpleProxy.plain conn data) data.length.toNat ↔
      data.length.toNat ≤ 24 ∨ 24 + plszField (SimpleProxy.plain conn data) ≤ data.length.toNat := by
  rw [← SimpleProxy.plszFits_plain_iff]
  exact unpackQuery_copiesInside_iff junk stack _ _

/-- `se_proxy`: the length comes from the pad byte, so the block is a second bound. -/
theorem se_decode_iff (junk : Junk) (stack : ClientQuery) (pass : BinarySafeString) (pw : SymPassphrase)
    (data : BinarySafeString) :
    CopiesInside (SeProxy.decode junk stack ⟨pass, some pw⟩ data) (SeProxy.plain pw data)
        (SeProxy.plainLength pw data) ↔
      16 ≤ data.length.toNat ∧ PlszFits (SeProxy.plain pw data) (SeProxy.plainLength pw data) := by
  by_cases h : 16 ≤ data.length.toNat
  · rw [SeProxy.decode_eq junk stack pass pw data h, unpackQuery_copiesInside_iff]
    exact ⟨fun hf => ⟨h, hf⟩, fun hf => hf.2⟩
  · rw [SeProxy.decode_short junk stack pass pw data (by omega)]
    constructor
    · rintro ⟨q, hq, -⟩
      cases hq
    · rintro ⟨h16, -⟩
      exact absurd h16 h

/-- **A decoder stays inside the packet exactly when the packet is rejected as short or its `plsz` field
fits**; for the AES module also the received string must hold one cipher block. -/
theorem decoders_copy_inside_iff (junk : Junk) (stack : ClientQuery) (pass : BinarySafeString)
    (pw : SymPassphrase) (data : BinarySafeString) :
    let conn : ConnectInfo := ⟨pass, some pw⟩
    let n := data.length.toNat
    let simple := SimpleProxy.plain conn data
    let se := SeProxy.plain pw data
    let seLength := SeProxy.plainLength pw data
    (CopiesInside (SimpleProxy.serverDecode (junk 0) stack conn data) simple n ↔
      n ≤ 24 ∨ 24 + plszField simple ≤ n) ∧
    (CopiesInside (SimpleProxy.clientDecode (junk 0) stack conn data) simple n ↔
      n ≤ 24 ∨ 24 + plszField simple ≤ n) ∧
    (CopiesInside (SeProxy.serverDecode junk stack conn data) se seLength ↔
      16 ≤ n ∧ (seLength ≤ 24 ∨ (24 + plszField se ≤ seLength ∧ 24 + plszField se ≤ n))) ∧
    (CopiesInside (SeProxy.clientDecode junk stack conn data) se seLength ↔
      16 ≤ n ∧ (seLength ≤ 24 ∨ (24 + plszField se ≤ seLength ∧ 24 + plszField se ≤ n))) := by
  intro conn n simple se seLength
  have hsimple := simple_decode_iff (junk 0) stack conn data
  have hse : CopiesInside (SeProxy.decode junk stack conn data) se seLength ↔
      16 ≤ n ∧ (seLength ≤ 24 ∨ (24 + plszField se ≤ seLength ∧ 24 + plszField se ≤ n)) := by
    rw [se_decode_iff]
    constructor
    · rintro ⟨h16, hf⟩
      rw [PlszFits, SeProxy.length_plain h16] at hf
      exact ⟨h16, hf⟩
    · rintro ⟨h16, hf⟩
      refine ⟨h16, ?_⟩
      rw [PlszFits, SeProxy.length_plain h16]
      exact hf
  exact ⟨hsimple, hsimple, hse, hse⟩

/-- A query local of all zeroes. -/
def zeroStack : ClientQuery := ⟨ip16 [], 0, .null false⟩

/-- A 25-byte packet that announces two payload bytes, under the empty passphrase (the XOR key is 0). -/
def lyingPacket : Bytes := List.replicate 20 0 ++ [2, 0, 0, 0, 0x41]

/-- A 32-byte AES packet whose second block, sent in clear, announces nine payload bytes and pad 0. -/
def lyingCipherPacket : Bytes := List.replicate 20 0 ++ [9] ++ List.replicate 11 0

/-- Both packets make the decoders read past the end. -/
theorem lying_length_reads_outside :
    ¬CopiesInside (SimpleProxy.serverDecode (fun _ => 0) zeroStack ⟨.null false, none⟩ (.ofBlock lyingPacket))
      (SimpleProxy.plain ⟨.null false, none⟩ (.ofBlock lyingPacket)) 25 ∧
    ¬CopiesInside (SeProxy.serverDecode (fun _ _ => 0) zeroStack ⟨.null false, some ⟨0, [], by decide⟩⟩
        (.ofBlock lyingCipherPacket))
      (SeProxy.plain ⟨0, [], by decide⟩ (.ofBlock lyingCipherPacket))
      (SeProxy.plainLength ⟨0, [], by decide⟩ (.ofBlock lyingCipherPacket)) := by
  constructor
  · have e : SimpleProxy.serverDecode (fun _ => 0) zeroStack ⟨.null false, none⟩ (.ofBlock lyingPacket) =
        .error .readOutside := by decide +kernel
    rw [e]
    rintro ⟨q, hq, -⟩
    cases hq
  · have e : SeProxy.serverDecode (fun _ _ => 0) zeroStack ⟨.null false, some ⟨0, [], by decide⟩⟩
        (.ofBlock lyingCipherPacket) = .error .readOutside := by decide +kernel
    rw [e]
    rintro ⟨q, hq, -⟩
    cases hq

end SnakeSocks.Decoders
