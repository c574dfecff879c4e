/-
**Codes and their bytes.**

* `Address.ofBytes_bytes`: a code is read back from the bytes in which it is sent.
-/

import Mathlib.Algebra.Group.Nat.Defs
import WireBridge.Rom.Address

namespace WireBridge.Address

theorem bytes_getElem? (code : Address) {index : Nat} (inside : index < 8) :
    code.bytes[index]? = some (code.byte index) := by
  match index with
  | 0 | 1 | 2 | 3 | 4 | 5 | 6 | 7 => rfl

theorem toNat_byte (address : Address) (position : Nat) :
    (address.byte position).toNat = address.raw.toNat / 2 ^ (8 * position) % 256 := by
  show (address.raw.extractLsb' (8 * position) 8).toNat = _
  rw [BitVec.extractLsb'_toNat, Nat.shiftRight_eq_div_pow]

/-- The eight base-256 digits of a number below `2 ^ 64`. -/
theorem ofBytes_bytes (address : Address) : ofBytes address.bytes = address := by
  obtain ⟨raw⟩ := address
  refine congrArg Address.mk (BitVec.eq_of_toNat_eq ?_)
  have below := raw.isLt
  simp only [bytes, littleEndian, List.foldr_cons, List.foldr_nil, toNat_byte,
    BitVec.toNat_ofNat]
  omega

end WireBridge.Address
