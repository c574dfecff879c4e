/-
**The check notices up to three flipped bits.**

What two sequences that both fit their check bytes differ by leaves a zero register. A bit time
keeps the parity of the register, so the number of bits that differ is even. It is not two, because
the register of a single bit comes round only after 127 bit times, which is more than there are bits
in the sequences that devices send.

* `Crc.parity_foldl_feed`: every one that is fed changes **the parity** of the register;
* `Crc.shift_iterate_ne`: **no bit leaves what another one leaves** within 126 bit times;
* `Crc.four_le_count`: what leaves a zero register has no ones or at least four;
* `Crc.valid_distance`: **accepted sequences of up to 15 bytes differ in four bits or more**, so
  that a ROM code or a scratchpad with one, two or three flipped bits is not accepted.
-/

import Mathlib.Logic.Function.Iterate
import WireBridge.Device.Scratchpad
import WireBridge.Proofs.Rom.Bits
import WireBridge.Proofs.Rom.Families
import WireBridge.Sim.Script

namespace WireBridge

namespace Crc

/-! ### An odd number of ones -/

/-- Whether a register has an odd number of ones. -/
def parity (register : UInt8) : Bool := (byteBits register).foldl xor false

/-- A bit time keeps the parity, because the polynomial has an even number of terms. -/
theorem parity_feed (register : UInt8) (bit : Bool) :
    parity (feed register bit) = (parity register ^^ bit) := by
  have table : ∀ (bits : Fin 256) (bit : Bool),
      parity (feed (.ofFin bits) bit) = (parity (.ofFin bits) ^^ bit) := by decide +kernel
  exact table register.toFin bit

/-- **Every one that is fed changes the parity.** -/
theorem parity_foldl_feed (bits : List Bool) (register : UInt8) :
    parity (bits.foldl feed register) =
      (parity register ^^ decide (bits.count true % 2 = 1)) := by
  induction bits generalizing register with
  | nil => simp
  | cons bit rest ih =>
    rw [List.foldl_cons, ih, parity_feed]
    cases bit with
    | false => rw [Bool.xor_false, List.count_cons_of_ne Bool.noConfusion]
    | true =>
      have turned : decide ((rest.count true + 1) % 2 = 1) =
          (true ^^ decide (rest.count true % 2 = 1)) := by
        rcases Nat.mod_two_eq_zero_or_one (rest.count true) with even | odd
        · simp [Nat.add_mod, even]
        · simp [Nat.add_mod, odd]
      rw [List.count_cons_self, turned, Bool.xor_assoc]

/-- What leaves a zero register has an even number of ones. -/
theorem count_even_of_gone {bits : List Bool} (gone : bits.foldl feed 0 = 0) :
    bits.count true % 2 = 0 := by
  have same := parity_foldl_feed bits 0
  have none : parity 0 = false := by decide
  rw [gone, none, Bool.false_xor] at same
  have notOdd := of_decide_eq_false same.symm
  omega

/-! ### Two ones -/

/-- Zeros only let time pass. -/
theorem foldl_feed_eq_iterate {bits : List Bool} (quiet : true ∉ bits) (register : UInt8) :
    bits.foldl feed register = shift^[bits.length] register := by
  induction bits generalizing register with
  | nil => rfl
  | cons bit rest ih =>
    obtain ⟨here, later⟩ := List.ne_and_not_mem_of_not_mem_cons quiet
    obtain rfl : bit = false := Bool.eq_false_iff.mpr here.symm
    rw [List.foldl_cons, ih later, feed_false, List.length_cons]
    rfl

/-- **The register of a single bit comes round after 127 bit times**, and not before. -/
theorem shift_iterate_ne {times : Nat} (later : 0 < times) (few : times < 127) :
    shift^[times] 1 ≠ 1 := by
  have table : ∀ times : Fin 127, 0 < times.val → shift^[times.val] 1 ≠ 1 := by
    decide +kernel
  exact table ⟨times, few⟩ later

/-- The places of two ones. -/
theorem exists_two_ones {bits : List Bool} (two : bits.count true = 2) :
    ∃ front middle back, bits = front ++ true :: (middle ++ true :: back) ∧
      true ∉ front ∧ true ∉ middle ∧ true ∉ back := by
  have first : true ∈ bits := List.count_pos_iff.mp (by omega)
  obtain ⟨front, rest, rfl, quietFront⟩ := List.eq_append_cons_of_mem first
  rw [List.count_append, List.count_eq_zero.mpr quietFront, List.count_cons_self] at two
  have second : true ∈ rest := List.count_pos_iff.mp (by omega)
  obtain ⟨middle, back, rfl, quietMiddle⟩ := List.eq_append_cons_of_mem second
  rw [List.count_append, List.count_eq_zero.mpr quietMiddle, List.count_cons_self] at two
  exact ⟨front, middle, back, rfl, quietFront, quietMiddle, List.count_eq_zero.mp (by omega)⟩

/-- Two ones within 127 bits leave something in the register. -/
theorem count_ne_two {bits : List Bool} (short : bits.length ≤ 127)
    (gone : bits.foldl feed 0 = 0) : bits.count true ≠ 2 := by
  intro two
  obtain ⟨front, middle, back, rfl, quietFront, quietMiddle, quietBack⟩ := exists_two_ones two
  have single : feed 0 true = shift^[1] 1 := by decide
  -- The register is that of the first one alone, and the second one clears it.
  rw [List.foldl_append, (foldl_feed_quiet quietFront).mpr rfl, List.foldl_cons, single,
    List.foldl_append, foldl_feed_eq_iterate quietMiddle, List.foldl_cons,
    foldl_feed_quiet quietBack] at gone
  generalize reached : shift^[middle.length] (shift^[1] 1) = register at gone
  have cleared : register = 1 := by
    have zero : shift 0 = 0 := by decide
    have same : register ^^^ 1 = 1 ^^^ 1 := shift_injective (gone.trans zero.symm)
    exact xor_right_injective same
  have round : shift^[middle.length + 1] 1 = 1 := reached.trans cleared
  simp only [List.length_append, List.length_cons] at short
  exact shift_iterate_ne (Nat.succ_pos _) (by omega) round

/-- **What leaves a zero register** has no ones, or at least four. -/
theorem four_le_count {bits : List Bool} (short : bits.length ≤ 127)
    (gone : bits.foldl feed 0 = 0) (noisy : true ∈ bits) : 4 ≤ bits.count true := by
  have even := count_even_of_gone gone
  have notTwo := count_ne_two short gone
  have positive := List.count_pos_iff.mpr noisy
  omega

/-! ### Sequences -/

/-- The number of bits in which two sequences differ. -/
def distance (first second : List UInt8) : Nat := (difference first second).count true

/-- Sequences of up to 15 bytes that differ and are both accepted differ in at least four bits. -/
theorem four_le_distance {first second : List UInt8} (short : first.length ≤ 15)
    (length : second.length = first.length) (other : first ≠ second)
    (accepted : valid first = true) (also : valid second = true) :
    4 ≤ distance first second := by
  rw [valid, beq_iff_eq] at accepted also
  refine four_le_count ?_ ?_ (Decidable.not_not.mp (mt (eq_of_difference length.symm) other))
  · rw [difference, List.length_zipWith, length_bits, length_bits]
    omega
  · rw [← check_xor length.symm, accepted, also, UInt8.xor_self]

/-- A sequence is accepted if its bits leave a zero register. -/
theorem valid_iff_gone (bytes : List UInt8) :
    valid bytes = true ↔ (bits bytes).foldl feed 0 = 0 := by
  rw [valid, beq_iff_eq, check, foldl_step_eq]

/-- A sequence does not differ from itself. -/
theorem distance_self (bytes : List UInt8) : distance bytes bytes = 0 :=
  List.count_eq_zero.mpr (quiet_zipWith_self (bits bytes))

/-- A sequence with one, two or three bits flipped. -/
structure Flipped (bytes changed : List UInt8) : Prop where
  length : changed.length = bytes.length
  altered : 1 ≤ distance bytes changed
  few : distance bytes changed ≤ 3

/-- A few flipped bits are noticed. -/
theorem Flipped.noticed {bytes changed : List UInt8} (flipped : Flipped bytes changed)
    (short : bytes.length ≤ 15) (accepted : valid bytes = true) : valid changed = false := by
  refine Bool.eq_false_iff.mpr fun also => ?_
  have other : bytes ≠ changed := by
    rintro rfl
    exact absurd (distance_self bytes) (Nat.ne_of_gt flipped.altered)
  have far := four_le_distance short flipped.length other accepted also
  exact absurd flipped.few (Nat.not_le.mpr far)

end Crc

/-! ### ROM codes and scratchpads -/

/-- The number of bits in which two codes differ. -/
def Address.distance (code other : Address) : Nat :=
  (List.range 64).countP fun position => code.bit position ^^ other.bit position

/-- The bits of a code are sent in the order of their positions. -/
theorem Address.bits_bytes (code : Address) :
    Crc.bits code.bytes = (List.range 64).map code.bit := by
  have byte (place : Nat) : Crc.byteBits (code.byte place) =
      (List.range 8).map fun position => code.bit (8 * place + position) :=
    List.map_congr_left fun position inside => getLsbD_byte code place (List.mem_range.mp inside)
  simp only [Address.bytes, Crc.bits, List.flatMap_cons, List.flatMap_nil, byte]
  rfl

/-- Codes differ in as many bits as their bytes do. -/
theorem Address.distance_bytes (code other : Address) :
    Crc.distance code.bytes other.bytes = code.distance other := by
  rw [Crc.distance, Crc.difference, bits_bytes, bits_bytes, List.zipWith_map, List.zipWith_self,
    Address.distance, List.count, List.countP_map]
  exact List.countP_congr fun position _ => by simp

namespace Crc

/-- **The check has distance four on all sequences in use.** Of at most 15 bytes, different
sequences that are both accepted differ in at least four bits. So a ROM code with one, two or three
bits flipped is not valid, and a scratchpad that is read with one, two or three bits flipped is
refused, whatever bus master it is read with. -/
theorem valid_distance :
    (∀ first second : List UInt8, 1 ≤ first.length → first.length ≤ 15 →
      second.length = first.length → first ≠ second → valid first = true → valid second = true →
        4 ≤ distance first second) ∧
    (∀ bytes changed : List UInt8, bytes.length ≤ 15 → valid bytes = true →
      Flipped bytes changed → valid changed = false) ∧
    (∀ code other : Address, code.valid = true → 1 ≤ code.distance other →
      code.distance other ≤ 3 → other.valid = false) ∧
    ∀ {σ ε : Type} (master : Master σ ε) (code : Address) (command : List UInt8)
      (state selected ready reached : σ) (page changed : Scratchpad),
      (master.select (some code)).perform state = (.ok (), selected) →
      (master.writeBytes command).perform selected = (.ok (), ready) →
      (master.readBytes 9).perform ready = (.ok changed, reached) →
      valid page.toList = true → Flipped page.toList changed.toList →
        (Scratchpad.read master code command).perform state = (.error .invalidCrc, reached) := by
  refine ⟨fun first second _ short length other accepted also =>
    four_le_distance short length other accepted also,
    fun bytes changed short accepted flipped => flipped.noticed short accepted, ?_, ?_⟩
  · intro code other accepted altered few
    rw [← Address.distance_bytes] at altered few
    have flipped : Flipped code.bytes other.bytes := ⟨rfl, altered, few⟩
    exact flipped.noticed (show 8 ≤ 15 by decide) accepted
  · intro σ ε master code command state selected ready reached page changed chosen asked read
      accepted flipped
    have refused : valid changed.toList = false :=
      flipped.noticed (by rw [Vector.length_toList]; decide) accepted
    rw [Scratchpad.read, Action.perform_bind, chosen]
    simp only [Action.perform_bind, asked, read, refused, Bool.false_eq_true, if_false,
      Action.perform_fail]

/-- Two ROM codes that are both valid and differ in four bits, one bit in each of four bytes. With
three of these bits flipped the first one is not valid, and neither is a scratchpad with three bits
flipped that is read from a script. -/
theorem valid_distance_near :
    let first : List UInt8 := [0x28, 0x8f, 0x09, 0x45, 0x16, 0x13, 0x02, 0xdc]
    let second : List UInt8 := [0x29, 0x8e, 0x09, 0x41, 0x16, 0x13, 0x02, 0xd8]
    let between : List UInt8 := [0x29, 0x8e, 0x09, 0x41, 0x16, 0x13, 0x02, 0xdc]
    let page : Scratchpad := #v[0x91, 0x01, 0x4b, 0x46, 0x7f, 0xff, 0x0c, 0x10, 0x70]
    let changed : Scratchpad := #v[0x91, 0x01, 0x4b, 0x46, 0x7f, 0xfe, 0x0c, 0x10, 0x76]
    (valid first = true ∧ valid second = true ∧ 4 ≤ distance first second ∧
      distance first second = 4) ∧
    (Flipped first between ∧ valid between = false) ∧
    ((Address.ofBytes first).distance (Address.ofBytes between) = 3 ∧
      (Address.ofBytes between).valid = false) ∧
    (valid page.toList = true ∧ Flipped page.toList changed.toList ∧
      (Scratchpad.read (Sim.scripted : Master Sim.Script Empty) (Address.ofBytes first)
        [FunctionCommand.readScratchpad.code]).perform ⟨[], changed.toList, [], []⟩ =
          (.error .invalidCrc, ⟨[], [], [], []⟩)) := by
  intro first second between page changed
  obtain ⟨far, noticed, invalid, refused⟩ := valid_distance
  have accepted : valid first = true := (valid_iff_gone first).mpr (by decide +kernel)
  have also : valid second = true := (valid_iff_gone second).mpr (by decide +kernel)
  have flipped : Flipped first between := ⟨rfl, by decide +kernel, by decide +kernel⟩
  have code : (Address.ofBytes first).valid = true :=
    (valid_iff_gone _).mpr (by decide +kernel)
  have three : (Address.ofBytes first).distance (Address.ofBytes between) = 3 := by decide +kernel
  have fits : valid page.toList = true := (valid_iff_gone page.toList).mpr (by decide +kernel)
  have altered : Flipped page.toList changed.toList :=
    ⟨rfl, by decide +kernel, by decide +kernel⟩
  refine ⟨⟨accepted, also, ?_, by decide +kernel⟩, ⟨flipped, ?_⟩, ⟨three, ?_⟩, fits, altered, ?_⟩
  · exact far first second (by decide) (by decide) rfl (by decide) accepted also
  · exact noticed first between (by decide) accepted flipped
  · exact invalid (Address.ofBytes first) (Address.ofBytes between) code (by rw [three]; decide)
      (Nat.le_of_eq three)
  · exact refused Sim.scripted _ _ _ _ _ _ page changed rfl rfl rfl fits altered

/-- With one more byte, the first and the last bit leave the same. -/
example : valid (1 :: List.replicate 14 0 ++ [0x80]) = true ∧
    distance (List.replicate 16 0) (1 :: List.replicate 14 0 ++ [0x80]) = 2 :=
  ⟨(valid_iff_gone _).mpr (by decide +kernel), by decide +kernel⟩

end Crc

end WireBridge
