/-
**The check notices every short burst.**

A burst changes bits of a sequence within a window of eight that are sent in a row. The register
keeps of it what one byte leaves there, and the bits that do not differ cannot make that zero.

* `Crc.exists_byteBits`: a window is the bits of a byte, up to zeros at its end;
* `Crc.foldl_feed_window`: a window that leaves a zero register has no one in it;
* `Crc.Burst`, `Crc.burst_noticed`: **every burst is noticed**, among them every change of one byte.
-/

import WireBridge.Proofs.Rom.Bits

namespace WireBridge.Crc

/-! ### Windows -/

/-- At most eight bits are those of a byte, but for zeros at the end. -/
theorem exists_byteBits {window : List Bool} (short : window.length ≤ 8) :
    ∃ byte, byteBits byte = window ++ List.replicate (8 - window.length) false := by
  refine ⟨⟨(BitVec.ofBoolListLE window).setWidth 8⟩, ?_⟩
  refine List.ext_getElem ?_ fun index inside _ => ?_
  · rw [length_byteBits, List.length_append, List.length_replicate]
    omega
  · have here : index < 8 := by rwa [length_byteBits] at inside
    simp only [byteBits, List.getElem_map, List.getElem_range, BitVec.getLsbD_setWidth,
      BitVec.getLsbD_ofBoolListLE, here, decide_true, Bool.true_and]
    rw [List.getD_eq_getElem?_getD]
    by_cases within : index < window.length
    · rw [List.getElem_append_left within, List.getElem?_eq_getElem within, Option.getD_some]
    · have past : window.length ≤ index := Nat.le_of_not_lt within
      rw [List.getElem_append_right past, List.getElem_replicate, List.getElem?_eq_none past,
        Option.getD_none]

/-- A window that leaves a zero register has no one in it. -/
theorem foldl_feed_window {window : List Bool} (short : window.length ≤ 8)
    (gone : window.foldl feed 0 = 0) : true ∉ window := by
  obtain ⟨byte, same⟩ := exists_byteBits short
  have zeros : true ∉ List.replicate (8 - window.length) false := by
    simp [List.mem_replicate]
  have nothing : step 0 0 = 0 := by
    rw [step_eq]
    decide
  have left : step 0 byte = 0 := by
    rw [step_eq_foldl, same, List.foldl_append, gone, (foldl_feed_quiet zeros).mpr rfl]
  have quiet : true ∉ byteBits byte := by
    rw [step_byte_injective (left.trans nothing.symm)]
    decide
  rw [same] at quiet
  exact fun one => quiet (List.mem_append_left _ one)

/-! ### Bursts -/

/-- A sequence with some bits changed, all of them among eight that are sent in a row. -/
structure Burst (bytes changed : List UInt8) : Prop where
  length : changed.length = bytes.length
  other : changed ≠ bytes
  confined : ∃ start, (bits changed).take start = (bits bytes).take start ∧
    (bits changed).drop (start + 8) = (bits bytes).drop (start + 8)

/-- The bits of a burst leave something in the register. -/
theorem Burst.foldl_feed_ne_zero {bytes changed : List UInt8} (burst : Burst bytes changed) :
    (difference changed bytes).foldl feed 0 ≠ 0 := by
  intro gone
  obtain ⟨start, before, after⟩ := burst.confined
  have front : true ∉ (difference changed bytes).take start := by
    rw [difference, List.take_zipWith, before]
    exact quiet_zipWith_self _
  have back : true ∉ (difference changed bytes).drop (start + 8) := by
    rw [difference, List.drop_zipWith, after]
    exact quiet_zipWith_self _
  -- The window between them leaves nothing, so it has no one in it either.
  have window : true ∉ ((difference changed bytes).drop start).take 8 := by
    refine foldl_feed_window (List.length_take_le _ _) ?_
    rw [← List.take_append_drop start (difference changed bytes), List.foldl_append,
      (foldl_feed_quiet front).mpr rfl,
      ← List.take_append_drop 8 ((difference changed bytes).drop start), List.foldl_append,
      List.drop_drop, foldl_feed_quiet back] at gone
    exact gone
  have quiet : true ∉ difference changed bytes := by
    rw [← List.take_append_drop start (difference changed bytes),
      ← List.take_append_drop 8 ((difference changed bytes).drop start), List.drop_drop]
    simp only [List.mem_append, not_or]
    exact ⟨front, window, back⟩
  exact burst.other (eq_of_difference burst.length quiet)

/-- A changed byte is a burst. -/
theorem burst_byte (front back : List UInt8) {byte other : UInt8} (different : other ≠ byte) :
    Burst (front ++ byte :: back) (front ++ other :: back) where
  length := by rw [List.length_append, List.length_append, List.length_cons, List.length_cons]
  other same := different (List.cons.inj (List.append_cancel_left same)).1
  confined := by
    refine ⟨(bits front).length, ?_, ?_⟩
    · rw [bits_append, bits_append, List.take_left, List.take_left]
    · have after (middle : UInt8) :
          (bits (front ++ middle :: back)).drop ((bits front).length + 8) = bits back := by
        rw [bits_append, bits_cons, ← List.drop_drop, List.drop_left, ← length_byteBits middle,
          List.drop_left]
      rw [after, after]

/-- **The check notices every short burst** in a sequence that it accepted, wherever it is and
whatever it changes, and so every change of one byte. The one byte that completes a sequence is its
check. -/
theorem burst_noticed :
    (∀ bytes, valid bytes = true →
      (∀ changed, Burst bytes changed → valid changed = false) ∧
      ∀ front byte back other, bytes = front ++ byte :: back → other ≠ byte →
        valid (front ++ other :: back) = false) ∧
    ∀ sequence byte, valid (sequence ++ [byte]) = true ↔ byte = check sequence := by
  have noticed {bytes changed : List UInt8} (accepted : valid bytes = true)
      (burst : Burst bytes changed) : valid changed = false := by
    refine Bool.eq_false_iff.mpr fun stillValid => burst.foldl_feed_ne_zero ?_
    rw [valid, beq_iff_eq] at accepted stillValid
    rw [← check_xor burst.length, stillValid, accepted, UInt8.xor_self]
  refine ⟨fun bytes accepted => ⟨fun changed => noticed accepted, ?_⟩, valid_append⟩
  rintro front byte back other rfl different
  exact noticed accepted (burst_byte front back different)

/-- A ROM code and the same with three bits changed across two of its bytes. -/
theorem burst_noticed_across :
    valid [0x28, 0x8f, 0x09, 0x45, 0x16, 0x13, 0x02, 0xdc] = true ∧
      Burst [0x28, 0x8f, 0x09, 0x45, 0x16, 0x13, 0x02, 0xdc]
        [0x28, 0x8f, 0x09, 0xc5, 0x15, 0x13, 0x02, 0xdc] ∧
      valid [0x28, 0x8f, 0x09, 0xc5, 0x15, 0x13, 0x02, 0xdc] = false := by
  have accepted : valid [0x28, 0x8f, 0x09, 0x45, 0x16, 0x13, 0x02, 0xdc] = true := by
    decide +kernel
  have burst : Burst [0x28, 0x8f, 0x09, 0x45, 0x16, 0x13, 0x02, 0xdc]
      [0x28, 0x8f, 0x09, 0xc5, 0x15, 0x13, 0x02, 0xdc] :=
    ⟨rfl, by decide, 30, by decide, by decide⟩
  exact ⟨accepted, burst, (burst_noticed.1 _ accepted).1 _ burst⟩

end WireBridge.Crc
