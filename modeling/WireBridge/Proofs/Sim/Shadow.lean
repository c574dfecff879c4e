/-
**What a corrupt code hides.**

Searches of one family and questions for one device take a one at the last position. The last bit
belongs to the check byte, so of two codes that differ in it alone at most one is valid, and where a
valid one has a zero there, its neighbour is taken instead: the valid code is hidden.

* `Sim.Visits.mem_passes`: the list of a search has the valid codes that it visits;
* `Sim.Finds`, `Sim.finds_iff`: a family search lists the valid codes of its family, but for the
  first code of all if its neighbour is there;
* `Sim.attach_corrupt`: a device with a corrupt code changes the answer about its neighbour, and
  what is found of the first code of a family, and nothing else;
* `Sim.attach_corrupt_hides`: next to such a device, a valid one is neither found nor told to be
  present.
-/

import WireBridge.Proofs.Bus.Genuine
import WireBridge.Proofs.Sim.Presence

namespace WireBridge.Search

open Address (Before Neighbour Ordered)

/-! ### Visited codes -/

/-- No code of its family comes before it. -/
def FirstOf (codes : List Address) (code : Address) : Prop :=
  ∀ other ∈ codes, other.family = code.family → ¬ Before other code

/-- **A family search visits** all codes of its family, but for the first one if its neighbour takes
part. -/
theorem mem_unshadowed {family : FamilyCode} {codes order : List Address} (ordered : Ordered order)
    (mem_order : ∀ code, code ∈ order ↔ code ∈ codes ∧ code.family = family) (code : Address) :
    code ∈ unshadowed codes order ↔
      (code ∈ codes ∧ code.family = family) ∧ ¬ (Shadowed codes code ∧ FirstOf codes code) := by
  rw [← mem_order]
  cases order with
  | nil => simp [unshadowed]
  | cons head tail =>
    have above := (List.pairwise_cons.mp ordered).1
    obtain ⟨headMember, headFamily⟩ := (mem_order head).mp List.mem_cons_self
    have first : FirstOf codes head := by
      intro other member same before
      have inside := (mem_order other).mpr ⟨member, same.trans headFamily⟩
      rcases List.mem_cons.mp inside with here | later
      · exact before.ne here
      · exact (above other later).asymm before
    have behind : ∀ code ∈ tail, ¬ FirstOf codes code := by
      intro code later firstOf
      have same := ((mem_order code).mp (List.mem_cons_of_mem head later)).2
      exact firstOf head headMember (headFamily.trans same.symm) (above code later)
    show code ∈ (if Shadowed codes head then tail else head :: tail) ↔ _
    by_cases shadowed : Shadowed codes head
    · rw [if_pos shadowed]
      constructor
      · intro later
        exact ⟨List.mem_cons_of_mem head later, fun hidden => behind code later hidden.2⟩
      · rintro ⟨member, visible⟩
        rcases List.mem_cons.mp member with rfl | later
        · exact absurd ⟨shadowed, first⟩ visible
        · exact later
    · rw [if_neg shadowed]
      refine ⟨fun member => ⟨member, fun hidden => ?_⟩, fun visible => visible.1⟩
      rcases List.mem_cons.mp member with rfl | later
      · exact shadowed hidden.1
      · exact behind code later hidden.2

end WireBridge.Search

namespace WireBridge.Sim

open Address (Before Neighbour)
open Search (visit Shadowed FirstOf)

variable {σ ε : Type} {master : Master σ ε} {line : σ → Line}

/-- **The list of a search** has the valid codes that it visits. -/
theorem Visits.mem_passes {rest : List Address} {state : Search × σ}
    (visits : Visits master line visit rest state) (code : Address) :
    ∀ (left : Nat) (found : List Address),
      code ∈ (Search.passes master left state found).2.1 ↔
        code ∈ found ∨ code ∈ rest.take left ∧ code.valid = true := by
  induction visits with
  | ended nextEq stopped kept =>
    intro left found
    cases left with
    | zero => simp [Search.passes]
    | succ left => simp [Search.passes, nextEq]
  | @visited search after state reached visited rest nextEq kept more ih =>
    intro left found
    cases left with
    | zero => simp [Search.passes]
    | succ left =>
      rw [Search.passes, nextEq, List.take_succ_cons, List.mem_cons]
      unfold visit
      by_cases valid : visited.valid = true
      · rw [if_pos valid]
        dsimp only
        rw [ih, Search.mem_note]
        by_cases same : code = visited
        · simp [same, valid]
        · simp [same]
      · rw [if_neg valid]
        dsimp only
        rw [ih]
        by_cases same : code = visited
        · simp [same, valid]
        · simp [same]

/-! ### What a family search finds -/

/-- A family search lists a code, if it may have enough passes. -/
def Finds (ε : Type) (attached : Line) (family : FamilyCode) (code : Address) : Prop :=
  ∃ limit, code ∈ (Search.passes (Sim.master : Master Line ε) limit
    (Search.start .normal (some family), attached) []).2.1

/-- **A family search finds** the valid codes of its family, but for the first code of all if its
neighbour is attached too. -/
theorem finds_iff (attached : Line) (distinct : attached.codes.Nodup)
    (nonzero : ∀ code ∈ attached.codes, code ≠ Address.zero) (family : FamilyCode)
    (code : Address) :
    Finds ε attached family code ↔
      (code ∈ attached.codes ∧ code.family = family ∧ code.valid = true) ∧
        ¬ (Shadowed attached.codes code ∧ FirstOf attached.codes code) := by
  obtain ⟨order, _, ordered, sought⟩ := exists_sought distinct (some family)
  have mem_order (code : Address) :
      code ∈ order ↔ code ∈ attached.codes ∧ code.family = family := by
    rw [sought, Search.seeks_some]
  have drives : Drives (Sim.master : Master Line ε) id := master_drives
  have visits := drives.visits_family family nonzero ordered mem_order
  have mem_visits := Search.mem_unshadowed ordered mem_order code
  have listed := visits.mem_passes code
  constructor
  · rintro ⟨limit, found⟩
    rcases (listed limit []).mp found with none | ⟨visited, valid⟩
    · exact absurd none List.not_mem_nil
    · obtain ⟨⟨member, same⟩, visible⟩ := mem_visits.mp (List.mem_of_mem_take visited)
      exact ⟨⟨member, same, valid⟩, visible⟩
  · rintro ⟨⟨member, same, valid⟩, visible⟩
    have visited := mem_visits.mpr ⟨⟨member, same⟩, visible⟩
    have enough : code ∈ (Search.unshadowed attached.codes order).take
        (Search.unshadowed attached.codes order).length := by
      rw [List.take_length]
      exact visited
    exact ⟨_, (listed _ []).mpr (.inr ⟨enough, valid⟩)⟩

/-- **The question for a valid code** is denied if its neighbour is attached too. -/
theorem confirm_outcome (attached : Line)
    (nonzero : ∀ code ∈ attached.codes, code ≠ Address.zero) {search : Search}
    (normal : search.kind = .normal) (code : Address) :
    ((Search.confirm (Sim.master : Master Line ε) code).perform (search, attached)).1 =
      .ok (decide (code ∈ attached.codes ∧ ¬ Shadowed attached.codes code) && code.valid) := by
  have drives : Drives (Sim.master : Master Line ε) id := master_drives
  obtain ⟨_, confirmEq, _⟩ := drives.confirm_perform normal nonzero code
  exact congrArg Prod.fst confirmEq

/-! ### A device with a corrupt code -/

theorem codes_attach {attached : Line} {code : Address} (fresh : code ∉ attached.codes)
    (model : Model) : (attached.attach code model).codes = attached.codes ++ [code] := by
  have others : attached.devices.filter (·.address ≠ code) = attached.devices := by
    refine List.filter_eq_self.mpr fun device member => decide_eq_true fun same => fresh ?_
    exact same ▸ List.mem_map_of_mem member
  unfold Line.attach Line.codes
  rw [others, List.map_append]
  rfl

section Attach

variable {codes : List Address} {code corrupt : Address}

theorem shadowed_append :
    Shadowed (codes ++ [corrupt]) code ↔ Shadowed codes code ∨ Neighbour code corrupt := by
  simp [Shadowed, or_and_right, exists_or]

theorem firstOf_append :
    FirstOf (codes ++ [corrupt]) code ↔
      FirstOf codes code ∧ ¬ (corrupt.family = code.family ∧ Before corrupt code) := by
  simp [FirstOf, or_imp, forall_and]

theorem nodup_append_fresh (distinct : codes.Nodup) (fresh : corrupt ∉ codes) :
    (codes ++ [corrupt]).Nodup := by
  refine List.nodup_append.mpr ⟨distinct, List.pairwise_singleton _ corrupt, ?_⟩
  intro code member other single same
  rw [List.mem_singleton.mp single] at same
  exact fresh (same ▸ member)

theorem nonzero_append (nonzero : ∀ code ∈ codes, code ≠ Address.zero)
    (broken : corrupt.valid = false) : ∀ code ∈ codes ++ [corrupt], code ≠ Address.zero := by
  intro code member
  rcases List.mem_append.mp member with old | new
  · exact nonzero code old
  · rw [List.mem_singleton.mp new]
    rintro rfl
    exact absurd broken (by decide +kernel)

theorem mem_append_of_valid (broken : corrupt.valid = false) (valid : code.valid = true) :
    code ∈ codes ++ [corrupt] ↔ code ∈ codes := by
  have other : code ≠ corrupt := by
    rintro rfl
    exact absurd (valid.symm.trans broken) (by decide)
  simp [other]

end Attach

/-- **What a device with a corrupt code changes.** On a line with different codes other than zero,
it changes what a search of a family finds of a code exactly if this is the first code of the family
and valid, and either the corrupt code is its neighbour, or it has another neighbour and the corrupt
code comes before it. It changes the answer to the question for a valid code exactly if that is
attached, the corrupt code is its neighbour, and it has no other. -/
theorem attach_corrupt (attached : Line) (distinct : attached.codes.Nodup)
    (nonzero : ∀ code ∈ attached.codes, code ≠ Address.zero) {corrupt : Address}
    (fresh : corrupt ∉ attached.codes) (broken : corrupt.valid = false) (model : Model) :
    let both := attached.attach corrupt model
    (∀ family code, ¬ (Finds ε both family code ↔ Finds ε attached family code) ↔
      (code ∈ attached.codes ∧ code.family = family ∧ code.valid = true) ∧
        FirstOf attached.codes code ∧
        if Shadowed attached.codes code then corrupt.family = family ∧ Before corrupt code
        else Neighbour code corrupt) ∧
    ∀ (search : Search) (code : Address), search.kind = .normal → code.valid = true →
      (((Search.confirm (Sim.master : Master Line ε) code).perform (search, both)).1 ≠
          ((Search.confirm (Sim.master : Master Line ε) code).perform (search, attached)).1 ↔
        code ∈ attached.codes ∧ Neighbour code corrupt ∧ ¬ Shadowed attached.codes code) := by
  intro both
  have codesEq : both.codes = attached.codes ++ [corrupt] := codes_attach fresh model
  have bothDistinct : both.codes.Nodup := codesEq ▸ nodup_append_fresh distinct fresh
  have bothNonzero : ∀ code ∈ both.codes, code ≠ Address.zero :=
    codesEq ▸ nonzero_append nonzero broken
  have mem_both {code : Address} (valid : code.valid = true) :
      code ∈ both.codes ↔ code ∈ attached.codes := codesEq ▸ mem_append_of_valid broken valid
  refine ⟨fun family code => ?_, fun search code normal valid => ?_⟩
  · rw [finds_iff both bothDistinct bothNonzero, finds_iff attached distinct nonzero]
    by_cases about : code ∈ attached.codes ∧ code.family = family ∧ code.valid = true
    · obtain ⟨member, same, valid⟩ := about
      subst same
      simp only [mem_both valid, member, valid, true_and]
      rw [codesEq, shadowed_append, firstOf_append]
      by_cases shadowed : Shadowed attached.codes code
      · by_cases first : FirstOf attached.codes code
        · simp [shadowed, first]
        · simp [first]
      -- the neighbour comes after the code
      · have later : Neighbour code corrupt → ¬ Before corrupt code :=
          fun next => next.before.asymm
        by_cases next : Neighbour code corrupt
        · simp [shadowed, next, later next]
        · simp [shadowed, next]
    · have absent : ¬ (code ∈ both.codes ∧ code.family = family ∧ code.valid = true) :=
        fun ⟨member, same, valid⟩ => about ⟨(mem_both valid).mp member, same, valid⟩
      simp [about, absent]
  · rw [confirm_outcome both bothNonzero normal, confirm_outcome attached nonzero normal]
    simp only [mem_both valid, valid, Bool.and_true]
    simp only [codesEq, shadowed_append]
    by_cases member : code ∈ attached.codes
    · by_cases shadowed : Shadowed attached.codes code
      · simp [shadowed]
      · simp [member, shadowed]
    · simp [member]

/-- Next to two thermometers, a device whose code differs from that of the first one in the last bit
changes what is told of that one only. -/
theorem attach_corrupt_thermometers :
    let line : Line :=
      { Line.empty with
        devices := [.fresh ⟨0x2900000000000128⟩ .presenceOnly,
          .fresh ⟨0x7000000000000228⟩ .presenceOnly] }
    let both := line.attach ⟨0xf000000000000228⟩ .presenceOnly
    ¬ (Finds Empty both 0x28 ⟨0x7000000000000228⟩ ↔ Finds Empty line 0x28 ⟨0x7000000000000228⟩) ∧
      (Finds Empty both 0x28 ⟨0x2900000000000128⟩ ↔ Finds Empty line 0x28 ⟨0x2900000000000128⟩) ∧
      ∀ search : Search, search.kind = .normal →
        ((Search.confirm (Sim.master : Master Line Empty) ⟨0x2900000000000128⟩).perform
            (search, both)).1 =
          ((Search.confirm (Sim.master : Master Line Empty) ⟨0x2900000000000128⟩).perform
            (search, line)).1 := by
  intro line both
  have distinct : line.codes.Nodup := by decide
  have nonzero : ∀ code ∈ line.codes, code ≠ Address.zero := by decide
  have fresh : ⟨0xf000000000000228⟩ ∉ line.codes := by decide
  have fits : (⟨0x7000000000000228⟩ : Address).valid = true := by decide +kernel
  have otherFits : (⟨0x2900000000000128⟩ : Address).valid = true := by decide +kernel
  have next : Neighbour ⟨0x7000000000000228⟩ ⟨0xf000000000000228⟩ := by decide
  have broken : (⟨0xf000000000000228⟩ : Address).valid = false :=
    Bool.eq_false_iff.mpr (next.not_valid fits)
  obtain ⟨finds, confirms⟩ :=
    @attach_corrupt Empty line distinct nonzero _ fresh broken .presenceOnly
  have before : Before ⟨0x7000000000000228⟩ ⟨0x2900000000000128⟩ :=
    ⟨8, ⟨by decide, by decide, by decide⟩, by decide⟩
  have first : FirstOf line.codes ⟨0x7000000000000228⟩ := by
    intro other member _
    rcases List.mem_cons.mp member with rfl | later
    · exact before.asymm
    · exact List.mem_singleton.mp later ▸ Before.irrefl _
  have alone : ¬ Shadowed line.codes ⟨0x7000000000000228⟩ := by decide
  refine ⟨(finds 0x28 _).mpr ⟨⟨by decide, by decide, fits⟩, first, ?_⟩, ?_, ?_⟩
  · rw [if_neg alone]
    exact next
  · refine Classical.byContradiction fun changed => ?_
    obtain ⟨_, firstOf, _⟩ := (finds 0x28 _).mp changed
    exact firstOf _ (by decide) (by decide) before
  · refine fun search normal => Classical.byContradiction fun changed => ?_
    obtain ⟨_, next, _⟩ := (confirms search _ normal otherFits).mp changed
    exact absurd next (by decide)

/-- **A corrupt code hides a valid one.** A thermometer is found and told to be present. After a
device was attached whose code differs from its code in the last bit, it is neither. -/
theorem attach_corrupt_hides :
    let line : Line :=
      { Line.empty with devices := [.fresh ⟨0x7000000000000228⟩ .presenceOnly] }
    let both := line.attach ⟨0xf000000000000228⟩ .presenceOnly
    both.codes.Nodup ∧ (∀ code ∈ both.codes, code ≠ Address.zero) ∧
      (⟨0xf000000000000228⟩ : Address).valid = false ∧
      (⟨0x7000000000000228⟩ : Address).valid = true ∧
      Finds Empty line 0x28 ⟨0x7000000000000228⟩ ∧
      ¬ Finds Empty both 0x28 ⟨0x7000000000000228⟩ ∧
      ∀ search : Search, search.kind = .normal →
        ((Search.confirm (Sim.master : Master Line Empty) ⟨0x7000000000000228⟩).perform
            (search, line)).1 = .ok true ∧
          ((Search.confirm (Sim.master : Master Line Empty) ⟨0x7000000000000228⟩).perform
            (search, both)).1 = .ok false := by
  intro line both
  have distinct : line.codes.Nodup := by decide
  have nonzero : ∀ code ∈ line.codes, code ≠ Address.zero := by decide
  have bothDistinct : both.codes.Nodup := by decide
  have bothNonzero : ∀ code ∈ both.codes, code ≠ Address.zero := by decide
  have fits : (⟨0x7000000000000228⟩ : Address).valid = true := by decide +kernel
  have next : Neighbour ⟨0x7000000000000228⟩ ⟨0xf000000000000228⟩ := by decide
  have broken : (⟨0xf000000000000228⟩ : Address).valid = false :=
    Bool.eq_false_iff.mpr (next.not_valid fits)
  have alone : ¬ Shadowed line.codes ⟨0x7000000000000228⟩ := by decide
  have shadowed : Shadowed both.codes ⟨0x7000000000000228⟩ := ⟨_, by decide, next⟩
  have member : ⟨0x7000000000000228⟩ ∈ line.codes := by decide
  have first : FirstOf both.codes ⟨0x7000000000000228⟩ := by
    intro other member _
    rcases List.mem_cons.mp member with rfl | later
    · exact Before.irrefl _
    · exact List.mem_singleton.mp later ▸ next.before.asymm
  refine ⟨bothDistinct, bothNonzero, broken, fits, ?_, ?_, fun search normal => ⟨?_, ?_⟩⟩
  · exact (finds_iff line distinct nonzero _ _).mpr
      ⟨⟨member, by decide, fits⟩, fun hidden => alone hidden.1⟩
  · exact fun found =>
      ((finds_iff both bothDistinct bothNonzero _ _).mp found).2 ⟨shadowed, first⟩
  · rw [confirm_outcome line nonzero normal, fits, Bool.and_true]
    exact congrArg Except.ok (decide_eq_true ⟨member, alone⟩)
  · rw [confirm_outcome both bothNonzero normal, fits, Bool.and_true]
    exact congrArg Except.ok (decide_eq_false fun visible => visible.2 shadowed)

end WireBridge.Sim
