/-
**The check, bit by bit.**

A byte goes into the check register bit by bit, in the order in which the bits are sent. In this
form the register is linear: what two sequences of one length leave differs by what their difference
leaves. Bits that do not differ leave a zero register alone and can be undone.

* `Crc.bits`: the bits of a sequence in the order in which they are sent;
* `Crc.feed`, `Crc.foldl_step_eq`: one bit goes in, and the bits of a sequence do what its bytes do;
* `Crc.difference`, `Crc.check_xor`: the bits that differ, and **what two checks differ by**;
* `Crc.foldl_feed_quiet`: bits that do not differ change no zero register and forget none.
-/

import WireBridge.Proofs.Rom.Check

namespace WireBridge.Crc

/-! ### Bits in the order in which they are sent -/

/-- The bits of a byte. -/
def byteBits (byte : UInt8) : List Bool := (List.range 8).map byte.toBitVec.getLsbD

/-- The bits of a sequence. -/
def bits (bytes : List UInt8) : List Bool := bytes.flatMap byteBits

theorem length_byteBits (byte : UInt8) : (byteBits byte).length = 8 := by
  rw [byteBits, List.length_map, List.length_range]

theorem bits_cons (byte : UInt8) (rest : List UInt8) :
    bits (byte :: rest) = byteBits byte ++ bits rest := List.flatMap_cons

theorem bits_append (front back : List UInt8) :
    bits (front ++ back) = bits front ++ bits back := List.flatMap_append

theorem length_bits (bytes : List UInt8) : (bits bytes).length = 8 * bytes.length := by
  induction bytes with
  | nil => rfl
  | cons byte rest ih =>
    rw [bits_cons, List.length_append, length_byteBits, ih, List.length_cons]
    omega

theorem byteBits_injective {first second : UInt8} (same : byteBits first = byteBits second) :
    first = second := by
  refine UInt8.eq_of_toBitVec_eq (BitVec.eq_of_getLsbD_eq fun position inside => ?_)
  exact List.map_inj_left.mp same position (List.mem_range.mpr inside)

/-- Sequences of one length with the same bits are the same. -/
theorem bits_injective {first second : List UInt8} (length : first.length = second.length)
    (same : bits first = bits second) : first = second := by
  induction first generalizing second with
  | nil => exact (List.eq_nil_of_length_eq_zero length.symm).symm
  | cons byte rest ih =>
    cases second with
    | nil => cases length
    | cons other others =>
      rw [bits_cons, bits_cons] at same
      obtain ⟨here, later⟩ :=
        List.append_inj same ((length_byteBits byte).trans (length_byteBits other).symm)
      rw [byteBits_injective here, ih (Nat.succ.inj length) later]

/-! ### The register is linear -/

theorem low_bit (register : UInt8) : register &&& 1 = 0 ∨ register &&& 1 = 1 := by
  have table : ∀ bits : Fin 256, UInt8.ofFin bits &&& 1 = 0 ∨ UInt8.ofFin bits &&& 1 = 1 := by
    decide +kernel
  exact table register.toFin

theorem low_bit_xor (first second : UInt8) :
    (first ^^^ second) &&& 1 = (first &&& 1) ^^^ (second &&& 1) := by
  refine UInt8.eq_of_toBitVec_eq (BitVec.eq_of_getElem_eq fun position inside => ?_)
  simp [Bool.and_xor_distrib_right]

theorem shift_eq (register : UInt8) :
    shift register = register >>> 1 ^^^ if register &&& 1 = 1 then feedback else 0 := by
  unfold shift
  split
  · rfl
  · rw [UInt8.xor_zero]

/-- **A bit time is linear.** -/
theorem shift_xor (first second : UInt8) :
    shift (first ^^^ second) = shift first ^^^ shift second := by
  have fedBack : (if (first ^^^ second) &&& 1 = 1 then feedback else 0) =
      (if first &&& 1 = 1 then feedback else 0) ^^^ if second &&& 1 = 1 then feedback else 0 := by
    rw [low_bit_xor]
    rcases low_bit first with one | one <;> rcases low_bit second with other | other <;>
      rw [one, other] <;> rfl
  rw [shift_eq, shift_eq first, shift_eq second, fedBack, UInt8.shiftRight_xor]
  ac_rfl

/-- The register after one bit. -/
def feed (register : UInt8) (bit : Bool) : UInt8 := shift (register ^^^ bit.toUInt8)

theorem feed_false (register : UInt8) : feed register false = shift register :=
  congrArg shift UInt8.xor_zero

theorem feed_xor (first second : UInt8) (bit other : Bool) :
    feed (first ^^^ second) (bit ^^ other) = feed first bit ^^^ feed second other := by
  have single : (bit ^^ other).toUInt8 = bit.toUInt8 ^^^ other.toUInt8 := by
    cases bit <;> cases other <;> rfl
  rw [feed, feed, feed, ← shift_xor, single]
  exact congrArg shift (by ac_rfl)

/-- **Feeding bits is linear.** -/
theorem foldl_feed_xor {one other : List Bool} (length : one.length = other.length)
    (first second : UInt8) :
    (one.zipWith xor other).foldl feed (first ^^^ second) =
      one.foldl feed first ^^^ other.foldl feed second := by
  induction one generalizing other first second with
  | nil =>
    cases other with
    | nil => rfl
    | cons bit rest => cases length
  | cons bit rest ih =>
    cases other with
    | nil => cases length
    | cons second rest =>
      rw [List.zipWith_cons_cons, List.foldl_cons, feed_xor, ih (Nat.succ.inj length)]
      rfl

/-! ### Bytes and bits -/

theorem shiftByte_xor (first second : UInt8) :
    shiftByte (first ^^^ second) = shiftByte first ^^^ shiftByte second := by
  simp only [shiftByte, shift_xor]

/-- A byte goes in bit by bit. -/
theorem step_eq_foldl (register byte : UInt8) :
    step register byte = (byteBits byte).foldl feed register := by
  have alone : (byteBits byte).foldl feed 0 = shiftByte byte := by
    have table : ∀ bits : Fin 256,
        (byteBits (.ofFin bits)).foldl feed 0 = shiftByte (.ofFin bits) := by decide +kernel
    exact table byte.toFin
  have silent : (List.replicate 8 false).foldl feed register = shiftByte register := by
    simp only [List.replicate, List.foldl_cons, List.foldl_nil, feed_false]
    rfl
  have lengths : (List.replicate 8 false).length = (byteBits byte).length :=
    List.length_replicate.trans (length_byteBits byte).symm
  have same : (List.replicate 8 false).zipWith xor (byteBits byte) = byteBits byte := by
    simp [List.replicate, byteBits, List.range, List.range.loop]
  have together := foldl_feed_xor lengths register 0
  rw [same, UInt8.xor_zero, silent, alone] at together
  rw [step_eq, shiftByte_xor, together]

theorem foldl_step_eq (bytes : List UInt8) (register : UInt8) :
    bytes.foldl step register = (bits bytes).foldl feed register := by
  induction bytes generalizing register with
  | nil => rfl
  | cons byte rest ih =>
    rw [List.foldl_cons, ih, step_eq_foldl, bits_cons, List.foldl_append]

/-- The bits in which two sequences differ. -/
def difference (first second : List UInt8) : List Bool := (bits first).zipWith xor (bits second)

/-- **What two checks differ by** is the check of what the sequences differ by. -/
theorem check_xor {first second : List UInt8} (length : first.length = second.length) :
    check first ^^^ check second = (difference first second).foldl feed 0 := by
  have lengths : (bits first).length = (bits second).length := by
    rw [length_bits, length_bits, length]
  have linear := foldl_feed_xor lengths 0 0
  rw [UInt8.xor_zero] at linear
  rw [check, check, foldl_step_eq, foldl_step_eq, difference, linear]

/-! ### Bits that do not differ -/

theorem feed_false_eq_zero {register : UInt8} : feed register false = 0 ↔ register = 0 := by
  have zero : shift 0 = 0 := by decide
  rw [feed_false]
  exact ⟨fun ended => shift_injective (ended.trans zero.symm), fun same => same ▸ zero⟩

/-- Bits that do not differ change no zero register and forget none. -/
theorem foldl_feed_quiet {bits : List Bool} (quiet : true ∉ bits) {register : UInt8} :
    bits.foldl feed register = 0 ↔ register = 0 := by
  induction bits generalizing register with
  | nil => exact Iff.rfl
  | cons bit rest ih =>
    obtain ⟨here, later⟩ := List.ne_and_not_mem_of_not_mem_cons quiet
    obtain rfl : bit = false := Bool.eq_false_iff.mpr here.symm
    rw [List.foldl_cons, ih later, feed_false_eq_zero]

/-- The bits in which a sequence differs from itself. -/
theorem quiet_zipWith_self (bits : List Bool) : true ∉ bits.zipWith xor bits := by
  simp [List.zipWith_self]

/-- Sequences of one length that do not differ anywhere are the same. -/
theorem eq_of_difference {first second : List UInt8} (length : first.length = second.length)
    (quiet : true ∉ difference first second) : first = second := by
  have lengths : (bits first).length = (bits second).length := by
    rw [length_bits, length_bits, length]
  refine bits_injective length (List.ext_getElem lengths fun index inside within => ?_)
  have both : index < (difference first second).length := by
    rw [difference, List.length_zipWith]
    omega
  have here : (difference first second)[index] ≠ true := fun one =>
    quiet (one ▸ List.getElem_mem both)
  simpa [difference] using here

end WireBridge.Crc
