/-
**What the check of a byte sequence tells.**

A bit time of the check register can be undone, so different registers stay different whatever is
fed after them.

* `Crc.step_injective`, `Crc.foldl_step_injective`: no register and no byte is forgotten;
* `Crc.valid_append`: the byte that completes a sequence is its check;
* `Crc.valid_modifyHead`: a changed first byte is noticed.
-/

import WireBridge.Rom.Crc

namespace WireBridge.Crc

/-- A bit time backwards: the top bit tells whether a bit fell out and fed back. -/
def unshift (register : UInt8) : UInt8 :=
  if register &&& 0x80 = 0 then register <<< 1 else ((register ^^^ feedback) <<< 1) ||| 1

theorem unshift_shift (register : UInt8) : unshift (shift register) = register := by
  have table : ∀ bits : Fin 256, unshift (shift (.ofFin bits)) = .ofFin bits := by decide +kernel
  exact table register.toFin

theorem shift_injective {first second : UInt8} (same : shift first = shift second) :
    first = second := by
  rw [← unshift_shift first, same, unshift_shift]

theorem shiftByte_injective {first second : UInt8} (same : shiftByte first = shiftByte second) :
    first = second := by
  unfold shiftByte at same
  iterate 8 replace same := shift_injective same
  exact same

theorem shiftByte_eq_zero {register : UInt8} : shiftByte register = 0 ↔ register = 0 := by
  have zero : shiftByte 0 = 0 := by decide
  exact ⟨fun ended => shiftByte_injective (ended.trans zero.symm), fun same => same ▸ zero⟩

theorem xor_right_injective {first second byte : UInt8}
    (same : first ^^^ byte = second ^^^ byte) : first = second := by
  have undone := congrArg (· ^^^ byte) same
  simpa [UInt8.xor_assoc] using undone

/-- A byte leaves different registers different. -/
theorem step_injective {first second byte : UInt8} (same : step first byte = step second byte) :
    first = second := by
  rw [step_eq, step_eq] at same
  exact xor_right_injective (shiftByte_injective same)

/-- Different bytes leave different registers. -/
theorem step_byte_injective {register first second : UInt8}
    (same : step register first = step register second) : first = second := by
  rw [step_eq, step_eq, UInt8.xor_comm register, UInt8.xor_comm register] at same
  exact xor_right_injective (shiftByte_injective same)

theorem foldl_step_injective (bytes : List UInt8) {first second : UInt8}
    (same : bytes.foldl step first = bytes.foldl step second) : first = second := by
  induction bytes generalizing first second with
  | nil => exact same
  | cons byte rest ih =>
    rw [List.foldl_cons, List.foldl_cons] at same
    exact step_injective (ih same)

/-- **The byte that completes a sequence is its check.** -/
theorem valid_append (bytes : List UInt8) (byte : UInt8) :
    valid (bytes ++ [byte]) = true ↔ byte = check bytes := by
  unfold valid check
  rw [List.foldl_append, List.foldl_cons, List.foldl_nil, beq_iff_eq, step_eq, shiftByte_eq_zero]
  generalize bytes.foldl step 0 = register
  refine ⟨fun zero => ?_, fun same => same ▸ UInt8.xor_self⟩
  exact xor_right_injective ((UInt8.xor_comm byte register).trans (zero.trans UInt8.xor_self.symm))

/-- **A changed first byte is noticed.** -/
theorem valid_modifyHead {first : UInt8} {rest : List UInt8} (valid_first : valid (first :: rest))
    {change : UInt8 → UInt8} (changed : change first ≠ first) :
    valid ((first :: rest).modifyHead change) = false := by
  refine Bool.eq_false_iff.mpr fun stillValid => changed ?_
  rw [List.modifyHead_cons] at stillValid
  rw [valid, check, List.foldl_cons, beq_iff_eq] at valid_first stillValid
  have registers : step 0 (change first) = step 0 first :=
    foldl_step_injective rest (stillValid.trans valid_first.symm)
  exact step_byte_injective registers

end WireBridge.Crc
