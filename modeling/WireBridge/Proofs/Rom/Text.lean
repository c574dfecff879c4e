/-
**Codes are read back from their dotted form.**

The dotted form leaves the check byte out, and reading computes it. So a code comes back exactly if
its check byte fits.

* `Address.utf8_ascii`: a plain text is its own bytes;
* `Address.parse_text`: a valid code is read back.
-/

import WireBridge.Proofs.Rom.Bytes
import WireBridge.Proofs.Rom.Check
import WireBridge.Rom.Text

namespace WireBridge.Address

/-- A text of the first 128 characters has one byte for each of them. -/
theorem utf8_ascii {chars : List Char} (ascii : ∀ char ∈ chars, char.toNat ≤ 127) :
    ((String.ofList chars).toUTF8.data.toList.map fun byte => Char.ofNat byte.toNat) = chars := by
  have bytes : (String.ofList chars).toUTF8.data.toList = chars.flatMap String.utf8EncodeChar := by
    show (chars.flatMap String.utf8EncodeChar).toByteArray.data.toList = _
    simp
  rw [bytes]
  clear bytes
  induction chars with
  | nil => rfl
  | cons char rest inner =>
    obtain ⟨first, others⟩ := List.forall_mem_cons.mp ascii
    have single : String.utf8EncodeChar char = [UInt8.ofNat char.toNat] := if_pos first
    have back : (UInt8.ofNat char.toNat).toNat = char.toNat :=
      Nat.mod_eq_of_lt (Nat.lt_of_le_of_lt first (by decide))
    rw [List.flatMap_cons, single, List.map_append, inner others, List.map_singleton, back,
      Char.ofNat_toNat]
    rfl

theorem ascii_pair (byte : UInt8) : ∀ char ∈ Hex.pair byte, char.toNat ≤ 127 := by
  have every : ∀ value : Fin 16, (Hex.digit value.val).toNat ≤ 127 := by decide
  have bound := byte.toNat_lt
  intro char member
  simp only [Hex.pair, List.mem_cons, List.not_mem_nil, or_false] at member
  rcases member with rfl | rfl
  · exact every ⟨byte.toNat / 16, by omega⟩
  · exact every ⟨byte.toNat % 16, by omega⟩

theorem ascii_textChars (address : Address) : ∀ char ∈ address.textChars, char.toNat ≤ 127 := by
  intro char member
  rw [textChars, List.mem_append, List.mem_cons, List.mem_flatMap] at member
  rcases member with member | rfl | ⟨byte, _, member⟩
  · exact ascii_pair _ char member
  · decide
  · exact ascii_pair byte char member

theorem parseBytes_textChars (address : Address) :
    parseBytes address.textChars = .ok (ofPayload (address.bytes.take 7)) := by
  have digits : address.textChars.take 2 ++ address.textChars.drop 3 =
      (address.bytes.take 7).flatMap Hex.pair := rfl
  rw [parseBytes, digits, Hex.bytes?_pairs]
  rfl

/-- The check byte of a valid code is the one that its other bytes ask for. -/
theorem ofPayload_bytes {address : Address} (valid : address.valid = true) :
    ofPayload (address.bytes.take 7) = address := by
  have whole : address.bytes = address.bytes.take 7 ++ [address.byte 7] := rfl
  rw [Address.valid, whole, Crc.valid_append] at valid
  rw [ofPayload, ← valid, ← whole, ofBytes_bytes]

/-- **A valid code is read back from its dotted form.** -/
theorem parse_text {address : Address} (valid : address.valid = true) :
    parse address.text = .ok address := by
  rw [parse, text, utf8_ascii (ascii_textChars address), parseBytes_textChars,
    ofPayload_bytes valid]

end WireBridge.Address
