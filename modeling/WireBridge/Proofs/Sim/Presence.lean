/-
**Asking a simulated line for one device.**

A search that is directed along a code takes the bits of the code wherever there is a choice, but
for the last one, where it takes a one. So it comes to the code, or to its neighbour.

* `Search.Chosen.aim_iff`: a directed pass ends at its code, unless that is absent or its neighbour
  takes part;
* `Sim.Drives.confirm_perform`: what the question for a device tells and leaves on any line;
* `Sim.confirm_exact`: on a line of valid codes it tells whether the device is attached, and the
  search starts anew.
-/

import WireBridge.Proofs.Sim.FamilyDiscovery

namespace WireBridge.Search

variable {σ ε : Type}

/-! ### Directed passes -/

/-- A directed search takes the bits of its code, and a one at the last position. -/
theorem direction_aim (search : Search) (code : Address) {position : Nat}
    (inside : position < 64) :
    (search.aim code).direction (position + 1) =
      if position = 63 then true else code.bit position := by
  unfold direction aim
  dsimp only
  by_cases last : position = 63
  · subst last
    rfl
  · rw [if_neg last, if_pos (by omega), Nat.add_sub_cancel]

/-- **A directed pass ends at its code**, unless that is absent or its neighbour takes part. -/
theorem Chosen.aim_iff {search : Search} {code target : Address} {codes : List Address}
    (chosen : Chosen (search.aim code) codes target) :
    target = code ↔ code ∈ codes ∧ ¬ Shadowed codes code := by
  constructor
  · intro same
    subst same
    refine ⟨chosen.member, fun ⟨other, member, next⟩ => ?_⟩
    obtain ⟨parts, zero⟩ := Address.neighbour_iff.mp next
    have asked := chosen.asked other member 63 parts
    rw [direction_aim search target (by decide), if_pos rfl, zero] at asked
    exact absurd asked Bool.false_ne_true
  · rintro ⟨member, alone⟩
    by_cases same : target = code
    · exact same
    · obtain ⟨position, parts⟩ := Address.exists_parts same
      have asked := chosen.asked code member position parts
      rw [direction_aim search code parts.inside] at asked
      by_cases last : position = 63
      · subst last
        rw [if_pos rfl] at asked
        have zero : code.bit 63 = false := by simpa [asked] using parts.differ
        exact absurd ⟨target, chosen.member, Address.neighbour_iff.mpr ⟨parts.symm, zero⟩⟩ alone
      · rw [if_neg last] at asked
        exact absurd asked parts.differ

/-- A search that starts anew is a new one. -/
theorem restart_eq_start (search : Search) : search.restart = start search.kind search.family := by
  obtain ⟨kind, family, rom, last, finished⟩ := search
  cases family <;> rfl

/-- Fewer passes tell the first outcomes. -/
theorem calls_take (master : Master σ ε) {count more : Nat} (few : count ≤ more)
    (state : Search × σ) :
    (calls master count state).1 = (calls master more state).1.take count := by
  induction count generalizing more state with
  | zero => rfl
  | succ count ih =>
    obtain ⟨more, rfl⟩ : ∃ fewer, more = fewer + 1 := ⟨more - 1, by omega⟩
    cases nextEq : (next master).perform state with
    | mk outcome after =>
      rw [calls_succ master count nextEq, calls_succ master more nextEq, List.take_succ_cons,
        ih (Nat.le_of_succ_le_succ few) after]

end WireBridge.Search

namespace WireBridge.Sim

open Search (calls Shadowed)

variable {σ ε : Type} {master : Master σ ε} {line : σ → Line}

/-! ### Any line -/

/-- **The question for a device**, wherever the search is: the device is told to be present if it is
attached without its neighbour and its check byte fits. The search starts anew. -/
theorem Drives.confirm_perform (drives : Drives master line) {search : Search} {state : σ}
    (normal : search.kind = .normal) (nonzero : ∀ code ∈ (line state).codes, code ≠ Address.zero)
    (code : Address) :
    ∃ reached, (Search.confirm master code).perform (search, state) =
        (.ok (decide (code ∈ (line state).codes ∧ ¬ Shadowed (line state).codes code) &&
            code.valid),
          (Search.start .normal search.family, reached)) ∧
      Unchanged (line state) (line reached) := by
  have aimed : (search.aim code).kind = .normal := normal
  have going : (search.aim code).finished = false := rfl
  have anew : search.restart = Search.start .normal search.family := by
    rw [Search.restart_eq_start, normal]
  unfold Search.confirm
  simp only [Action.perform_bind, Action.perform_current, Action.perform_update,
    Action.perform_attempt, anew]
  by_cases empty : (line state).devices = []
  · obtain ⟨reached, nextEq, devices, overrun⟩ := drives.next_empty going empty
    have absent : code ∉ (line state).codes := fun member => Line.devices_ne_nil member empty
    refine ⟨reached, ?_, devices, overrun⟩
    rw [nextEq]
    simp [absent]
  · obtain ⟨target, last, reached, chosen, _, nextEq, devices, overrun⟩ :=
      drives.next_perform aimed going empty
    have concluded := @Search.conclude_all ε { search.aim code with rom := target } rfl
      (nonzero target chosen.member) last
    refine ⟨reached, ?_, devices, overrun⟩
    have same : decide (code ∈ (line state).codes ∧ ¬ Shadowed (line state).codes code) =
        decide (target = code) := decide_eq_decide.mpr chosen.aim_iff.symm
    rw [nextEq, concluded, same]
    unfold Search.visit
    by_cases found : target = code
    · subst found
      cases valid : target.valid <;> simp
    · cases valid : target.valid <;> simp [found]

/-! ### Lines of valid codes -/

/-- **The question for a device is answered exactly.** On a line whose devices have different valid
codes other than zero, whatever the line was doing and wherever the search is, a device is told to
be present if and only if it is attached. No device is changed, and the search is left as a new one,
whose passes tell what those of a new search would have told before the question. -/
theorem confirm_exact (attached : Line) (distinct : attached.codes.Nodup)
    (nonzero : ∀ code ∈ attached.codes, code ≠ Address.zero)
    (valid : ∀ code ∈ attached.codes, code.valid = true) {search : Search}
    (normal : search.kind = .normal) (code : Address) :
    ∃ reached, (Search.confirm (Sim.master : Master Line ε) code).perform (search, attached) =
        (.ok (decide (code ∈ attached.codes)), (Search.start .normal search.family, reached)) ∧
      Unchanged attached reached ∧ ∀ count,
        (calls (Sim.master : Master Line ε) count
            (Search.start .normal search.family, reached)).1 =
          (calls (Sim.master : Master Line ε) count
            (Search.start .normal search.family, attached)).1 := by
  have drives : Drives (Sim.master : Master Line ε) id := master_drives
  obtain ⟨reached, confirmEq, kept⟩ := drives.confirm_perform normal nonzero code
  have answer : (decide (code ∈ attached.codes ∧ ¬ Shadowed attached.codes code) && code.valid) =
      decide (code ∈ attached.codes) := by
    by_cases member : code ∈ attached.codes
    · simp [member, valid code member, Search.not_shadowed valid (valid code member)]
    · simp [member]
  refine ⟨reached, by rw [← answer]; exact confirmEq, kept, fun count => ?_⟩
  obtain ⟨order, _, ordered, mem_order⟩ := exists_sought distinct search.family
  have yields (here : Line) (same : here.codes = attached.codes) :
      Yields (Sim.master : Master Line ε) id order (Search.start .normal search.family, here) :=
    drives.yields_start nonzero valid ordered mem_order same
  have few : count ≤ order.length + count := Nat.le_add_left _ _
  rw [Search.calls_take _ few, Search.calls_take _ few, ((yields reached kept.codes).calls count).1,
    ((yields attached rfl).calls count).1]

/-- In the middle of a search for another family, one of two thermometers is told to be present, and
a third code is not. -/
theorem confirm_exact_two :
    let line : Line :=
      { Line.empty with
        devices := [.fresh ⟨0x2900000000000128⟩ .presenceOnly,
          .fresh ⟨0x7000000000000228⟩ .presenceOnly] }
    let search : Search := ⟨.normal, some 0x26, ⟨0xee00000000000168⟩, 9, false⟩
    line.codes.Nodup ∧ (∀ code ∈ line.codes, code ≠ Address.zero) ∧
      (∀ code ∈ line.codes, code.valid = true) ∧
      ((Search.confirm (Sim.master : Master Line Empty) ⟨0x7000000000000228⟩).perform
        (search, line)).1 = .ok true ∧
      ((Search.confirm (Sim.master : Master Line Empty) ⟨0xee00000000000168⟩).perform
        (search, line)).1 = .ok false := by
  intro line search
  have distinct : line.codes.Nodup := by decide
  have nonzero : ∀ code ∈ line.codes, code ≠ Address.zero := by decide
  have valid : ∀ code ∈ line.codes, code.valid = true := by decide +kernel
  have attached : ⟨0x7000000000000228⟩ ∈ line.codes := by decide
  have absent : ⟨0xee00000000000168⟩ ∉ line.codes := by decide
  obtain ⟨_, told, _⟩ := @confirm_exact Empty line distinct nonzero valid search rfl _
  obtain ⟨_, denied, _⟩ := @confirm_exact Empty line distinct nonzero valid search rfl _
  exact ⟨distinct, nonzero, valid,
    (congrArg Prod.fst told).trans (congrArg Except.ok (decide_eq_true attached)),
    (congrArg Prod.fst denied).trans (congrArg Except.ok (decide_eq_false absent))⟩

end WireBridge.Sim
