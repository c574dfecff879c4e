/-
**Codes in the order of the bits that are sent.**

A search meets the bits of ROM codes in the order in which they are sent, so it visits codes in the
order in which the first bit sent weighs most.

* `Address.Parts first second position`: the codes agree on all bits sent before a position and
  differ there; two different codes part at exactly one position;
* `Address.Before`: at the position where two codes part, the first has a zero and the second a one;
* `Address.Neighbour`: the code that differs in the last bit only, and has a one there, comes next;
* `Address.exists_ordered`: different codes can be listed in this order, in exactly one way
  (`Address.ordered_unique`).
-/

import WireBridge.Rom.Address

namespace WireBridge.Address

/-! ### Bits -/

/-- Codes with the same bits are the same. -/
theorem eq_of_bit {first second : Address}
    (same : ∀ position, position < 64 → first.bit position = second.bit position) :
    first = second := by
  obtain ⟨raw⟩ := first
  obtain ⟨other⟩ := second
  exact congrArg Address.mk (BitVec.eq_of_getLsbD_eq fun position inside => same position inside)

/-- A replaced bit is read back, and no other bit is touched. -/
theorem bit_setBit (address : Address) {position : Nat} (inside : position < 64) (value : Bool)
    (asked : Nat) :
    (address.setBit position value).bit asked =
      if asked = position then value else address.bit asked := by
  unfold setBit bit
  by_cases same : asked = position
  · subst same
    cases value <;> simp [inside]
  · have other : ¬ position = asked := fun equal => same equal.symm
    cases value
    · by_cases within : asked < 64
      · simp [same, within]
      · simp [same, BitVec.getLsbD_of_ge address.raw asked (Nat.le_of_not_lt within)]
    · simp [BitVec.getLsbD_twoPow, same, other]

/-! ### Where two codes part -/

/-- Two codes agree on all bits sent before a position and differ there. -/
structure Parts (first second : Address) (position : Nat) : Prop where
  inside : position < 64
  agree : ∀ earlier, earlier < position → first.bit earlier = second.bit earlier
  differ : first.bit position ≠ second.bit position

theorem Parts.symm {first second : Address} {position : Nat} (parts : Parts first second position) :
    Parts second first position :=
  ⟨parts.inside, fun earlier below => (parts.agree earlier below).symm, parts.differ.symm⟩

/-- Two codes part at one position only. -/
theorem Parts.unique {first second : Address} {position other : Nat}
    (here : Parts first second position) (there : Parts first second other) : position = other := by
  rcases Nat.lt_trichotomy position other with less | same | more
  · exact absurd (there.agree position less) here.differ
  · exact same
  · exact absurd (here.agree other more) there.differ

/-- Different codes part somewhere. -/
theorem exists_parts {first second : Address} (different : first ≠ second) :
    ∃ position, Parts first second position := by
  by_cases found : ∃ position, Parts first second position
  · exact found
  · refine absurd (eq_of_bit fun position => ?_) different
    -- a first position at which the bits differ would be one where the codes part
    induction position using Nat.strongRecOn with
    | ind position earlierAgree =>
      intro inside
      by_cases same : first.bit position = second.bit position
      · exact same
      · refine absurd ⟨position, inside, fun earlier below => ?_, same⟩ found
        exact earlierAgree earlier below (Nat.lt_trans below inside)

/-! ### The order -/

/-- The code whose first differing bit is zero comes before the other. -/
def Before (first second : Address) : Prop :=
  ∃ position, Parts first second position ∧ first.bit position = false

theorem Before.irrefl (address : Address) : ¬ Before address address :=
  fun ⟨_, parts, _⟩ => parts.differ rfl

theorem Before.ne {first second : Address} (before : Before first second) : first ≠ second :=
  fun same => Before.irrefl second (same ▸ before)

/-- At the position where two codes part, the later one has a one. -/
theorem Parts.bit_eq_true {first second : Address} {position : Nat}
    (parts : Parts first second position) (zero : first.bit position = false) :
    second.bit position = true := by
  simpa [zero] using parts.differ.symm

theorem Before.trans {first second third : Address} (low : Before first second)
    (high : Before second third) : Before first third := by
  obtain ⟨lower, lowerParts, lowerZero⟩ := low
  obtain ⟨upper, upperParts, upperZero⟩ := high
  have lowerOne := lowerParts.bit_eq_true lowerZero
  have upperOne := upperParts.bit_eq_true upperZero
  -- the codes part where the earlier of the two differences is
  rcases Nat.lt_trichotomy lower upper with less | same | more
  · have kept := upperParts.agree lower less
    refine ⟨lower, ⟨lowerParts.inside, fun earlier below => ?_, ?_⟩, lowerZero⟩
    · rw [lowerParts.agree earlier below, upperParts.agree earlier (Nat.lt_trans below less)]
    · rw [← kept, lowerZero, lowerOne]
      exact Bool.false_ne_true
  · subst same
    rw [lowerOne] at upperZero
    exact absurd upperZero Bool.noConfusion
  · have kept := lowerParts.agree upper more
    refine ⟨upper, ⟨upperParts.inside, fun earlier below => ?_, ?_⟩, kept.trans upperZero⟩
    · rw [lowerParts.agree earlier (Nat.lt_trans below more), upperParts.agree earlier below]
    · rw [kept, upperZero, upperOne]
      exact Bool.false_ne_true

theorem Before.asymm {first second : Address} (before : Before first second) :
    ¬ Before second first :=
  fun after => Before.irrefl first (before.trans after)

/-- Of two different codes one comes before the other. -/
theorem before_or_before {first second : Address} (different : first ≠ second) :
    Before first second ∨ Before second first := by
  obtain ⟨position, parts⟩ := exists_parts different
  cases bit : first.bit position with
  | false => exact .inl ⟨position, parts, bit⟩
  | true =>
    exact .inr ⟨position, parts.symm, by simpa [bit] using parts.differ.symm⟩

/-! ### Neighbours -/

/-- A code with a zero as its last bit, and the one that differs from it in that bit only. -/
def Neighbour (code other : Address) : Prop :=
  code.bit 63 = false ∧ other = code.setBit 63 true

instance (code other : Address) : Decidable (Neighbour code other) :=
  inferInstanceAs (Decidable (_ ∧ _))

/-- Neighbours part at the last bit. -/
theorem neighbour_iff {code other : Address} :
    Neighbour code other ↔ Parts code other 63 ∧ code.bit 63 = false := by
  constructor
  · rintro ⟨zero, rfl⟩
    refine ⟨⟨by decide, fun earlier below => ?_, ?_⟩, zero⟩
    · rw [bit_setBit code (by decide), if_neg (by omega)]
    · rw [bit_setBit code (by decide), if_pos rfl, zero]
      exact Bool.false_ne_true
  · rintro ⟨parts, zero⟩
    refine ⟨zero, eq_of_bit fun position inside => ?_⟩
    rw [bit_setBit code (by decide)]
    by_cases last : position = 63
    · rw [if_pos last, last]
      exact parts.bit_eq_true zero
    · rw [if_neg last]
      exact (parts.agree position (by omega)).symm

theorem Neighbour.before {code other : Address} (next : Neighbour code other) :
    Before code other := by
  obtain ⟨parts, zero⟩ := neighbour_iff.mp next
  exact ⟨63, parts, zero⟩

/-- **Nothing comes between neighbours.** -/
theorem Neighbour.not_between {code other between : Address} (next : Neighbour code other)
    (low : Before code between) : ¬ Before between other := by
  rintro ⟨upper, upperParts, upperZero⟩
  obtain ⟨lower, lowerParts, lowerZero⟩ := low
  obtain ⟨parts, _⟩ := neighbour_iff.mp next
  have inside := lowerParts.inside
  have above := upperParts.inside
  have lowerOne := lowerParts.bit_eq_true lowerZero
  -- the inner code would leave both at one bit, or one of them where they still agree
  rcases Nat.lt_trichotomy lower upper with less | same | more
  · have kept := (parts.agree lower (by omega)).trans (upperParts.agree lower less).symm
    exact lowerParts.differ kept
  · rw [← same, lowerOne] at upperZero
    exact Bool.noConfusion upperZero
  · have kept := (lowerParts.agree upper more).symm.trans (parts.agree upper (by omega))
    exact upperParts.differ kept

/-! ### Ordered lists -/

/-- Each code comes before all that follow it. -/
abbrev Ordered (codes : List Address) : Prop := codes.Pairwise Before

/-- The codes after the first one are those that come after it. -/
theorem mem_tail_iff {head : Address} {tail : List Address} (ordered : Ordered (head :: tail))
    (code : Address) : code ∈ tail ↔ code ∈ head :: tail ∧ Before head code := by
  constructor
  · intro later
    exact ⟨List.mem_cons_of_mem head later, (List.pairwise_cons.mp ordered).1 code later⟩
  · rintro ⟨member, after⟩
    rcases List.mem_cons.mp member with rfl | later
    · exact absurd after (Before.irrefl code)
    · exact later

/-- A new code has a place in an ordered list. -/
theorem exists_insert {codes : List Address} (ordered : Ordered codes) {code : Address}
    (fresh : code ∉ codes) : ∃ longer, longer.Perm (code :: codes) ∧ Ordered longer := by
  induction codes with
  | nil => exact ⟨[code], .refl _, List.pairwise_singleton _ _⟩
  | cons head rest ih =>
    obtain ⟨above, restOrdered⟩ := List.pairwise_cons.mp ordered
    by_cases first : Before code head
    · refine ⟨code :: head :: rest, .refl _, List.pairwise_cons.mpr ⟨?_, ordered⟩⟩
      intro other member
      rcases List.mem_cons.mp member with rfl | later
      · exact first
      · exact first.trans (above other later)
    · have different : code ≠ head := fun same => fresh (same ▸ List.mem_cons_self)
      have after : Before head code := (before_or_before different).resolve_left first
      obtain ⟨longer, perm, longerOrdered⟩ :=
        ih restOrdered fun member => fresh (List.mem_cons_of_mem _ member)
      refine ⟨head :: longer, (perm.cons head).trans (.swap code head rest), ?_⟩
      refine List.pairwise_cons.mpr ⟨fun other member => ?_, longerOrdered⟩
      rcases List.mem_cons.mp (perm.mem_iff.mp member) with rfl | later
      · exact after
      · exact above other later

/-- **Different codes can be listed in the order of their bits.** -/
theorem exists_ordered {codes : List Address} (distinct : codes.Nodup) :
    ∃ order, order.Perm codes ∧ Ordered order := by
  induction codes with
  | nil => exact ⟨[], .refl _, .nil⟩
  | cons code rest ih =>
    obtain ⟨fresh, restDistinct⟩ := List.nodup_cons.mp distinct
    obtain ⟨order, perm, ordered⟩ := ih restDistinct
    obtain ⟨longer, longerPerm, longerOrdered⟩ :=
      exists_insert ordered fun member => fresh (perm.mem_iff.mp member)
    exact ⟨longer, longerPerm.trans (perm.cons code), longerOrdered⟩

/-- There is only one such list. -/
theorem ordered_unique {first second : List Address} (same : first.Perm second)
    (firstOrdered : Ordered first) (secondOrdered : Ordered second) : first = second :=
  same.eq_of_pairwise (fun _ _ _ _ low high => absurd high low.asymm) firstOrdered secondOrdered

end WireBridge.Address
