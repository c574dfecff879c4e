/-
**Families in the order of the bits that are sent.**

The family code is sent first, so the codes of a family follow each other in the order of searches,
and the check byte is sent last, so it never decides between two valid codes.

* `Address.Before.family_eq`: what comes between two codes of a family is of that family;
* `Address.Parts.lt_of_valid`: valid codes part before their check bytes, so they are no neighbours.
-/

import WireBridge.Proofs.Rom.Bytes
import WireBridge.Proofs.Rom.Check
import WireBridge.Proofs.Rom.SendingOrder

namespace WireBridge.Address

/-- The bits of a byte are bits of the code. -/
theorem getLsbD_byte (address : Address) (place : Nat) {position : Nat} (inside : position < 8) :
    (address.byte place).toBitVec.getLsbD position = address.bit (8 * place + position) := by
  show (address.raw.extractLsb' (8 * place) 8).getLsbD position = _
  rw [BitVec.getLsbD_extractLsb', decide_eq_true inside, Bool.true_and]
  rfl

/-- Bytes at a position are the same if their bits are. -/
theorem byte_eq_iff {first second : Address} {place : Nat} :
    first.byte place = second.byte place ↔
      ∀ position, position < 8 → first.bit (8 * place + position) =
        second.bit (8 * place + position) := by
  constructor
  · intro same position inside
    rw [← getLsbD_byte first place inside, same, getLsbD_byte second place inside]
  · intro same
    refine UInt8.eq_of_toBitVec_eq (BitVec.eq_of_getLsbD_eq fun position inside => ?_)
    rw [getLsbD_byte first place inside, getLsbD_byte second place inside]
    exact same position inside

/-- Codes are of one family if they agree on the bits sent first. -/
theorem family_eq_iff {first second : Address} :
    first.family = second.family ↔
      ∀ position, position < 8 → first.bit position = second.bit position := by
  unfold family
  rw [byte_eq_iff]
  simp only [Nat.mul_zero, Nat.zero_add]

/-- Codes that part after the family code are of one family. -/
theorem Parts.family_eq {first second : Address} {position : Nat}
    (parts : Parts first second position) (beyond : 8 ≤ position) : first.family = second.family :=
  family_eq_iff.mpr fun earlier below => parts.agree earlier (Nat.lt_of_lt_of_le below beyond)

/-- **What comes between two codes of a family** is of that family. -/
theorem Before.family_eq {first second third : Address} (low : Before first second)
    (high : Before second third) (same : first.family = third.family) :
    second.family = first.family := by
  obtain ⟨lower, lowerParts, lowerZero⟩ := low
  obtain ⟨upper, upperParts, upperZero⟩ := high
  refine (lowerParts.family_eq (Nat.le_of_not_lt fun below => ?_)).symm
  have outer := family_eq_iff.mp same
  -- the outer codes would part where the inner one leaves the first of them
  rcases Nat.lt_trichotomy lower upper with less | here | more
  · have kept := (outer lower below).trans (upperParts.agree lower less).symm
    exact absurd kept lowerParts.differ
  · subst here
    rw [lowerParts.bit_eq_true lowerZero] at upperZero
    exact absurd upperZero Bool.noConfusion
  · have inside := Nat.lt_trans more below
    have kept := (lowerParts.agree upper more).symm.trans (outer upper inside)
    exact absurd kept upperParts.differ

/-! ### Check bytes -/

/-- Valid codes with the same family and serial number are the same. -/
theorem eq_of_valid {first second : Address} (firstValid : first.valid = true)
    (secondValid : second.valid = true)
    (same : ∀ position, position < 56 → first.bit position = second.bit position) :
    first = second := by
  have bytes : ∀ place, place < 7 → first.byte place = second.byte place := by
    intro place inside
    exact byte_eq_iff.mpr fun position below => same _ (by omega)
  have checked : ∀ address : Address, address.valid = true →
      address.byte 7 = Crc.check [address.byte 0, address.byte 1, address.byte 2, address.byte 3,
        address.byte 4, address.byte 5, address.byte 6] :=
    fun address valid => (Crc.valid_append _ _).mp valid
  have last : first.byte 7 = second.byte 7 := by
    rw [checked first firstValid, checked second secondValid, bytes 0 (by decide),
      bytes 1 (by decide), bytes 2 (by decide), bytes 3 (by decide), bytes 4 (by decide),
      bytes 5 (by decide), bytes 6 (by decide)]
  rw [← first.ofBytes_bytes, ← second.ofBytes_bytes, Address.bytes, Address.bytes, last,
    bytes 0 (by decide), bytes 1 (by decide), bytes 2 (by decide), bytes 3 (by decide),
    bytes 4 (by decide), bytes 5 (by decide), bytes 6 (by decide)]

/-- **Valid codes part before their check bytes.** -/
theorem Parts.lt_of_valid {first second : Address} {position : Nat}
    (parts : Parts first second position) (firstValid : first.valid = true)
    (secondValid : second.valid = true) : position < 56 := by
  refine Nat.lt_of_not_le fun beyond => parts.differ ?_
  rw [eq_of_valid firstValid secondValid fun earlier below =>
    parts.agree earlier (Nat.lt_of_lt_of_le below beyond)]

/-- Neighbours are not both valid. -/
theorem Neighbour.not_valid {code other : Address} (next : Neighbour code other)
    (fits : code.valid = true) : ¬ other.valid = true := by
  intro otherFits
  exact absurd ((neighbour_iff.mp next).1.lt_of_valid fits otherFits) (by decide)

end WireBridge.Address
