/-
**Discovery of the devices of one family.**

A family search starts as if its last pass had ended at a code that has the family code and zeros
after it, with the last discrepancy at the last position. Its first pass therefore takes the branch
of the family where the family codes part, and the zero branch everywhere after them.

* `Search.Chosen.ofFamily`: the first pass of a family search ends at the first code of the family,
  or at its neighbour, which has another last bit;
* `Search.PastOf`: between two passes of a family search the codes of the family that are left are
  those that come after the last code;
* `Sim.Drives.visits_family`: a family search visits the codes of the family in the order of the
  bits that are sent, but for the first one if its neighbour is there too;
* `Sim.Yields`: a search that finds some codes in turn and then ends, as searches of valid codes do
  (`Sim.Drives.yields_start`).
-/

import WireBridge.Proofs.Bus.Genuine
import WireBridge.Proofs.Registry.Lines
import WireBridge.Proofs.Rom.Families
import WireBridge.Proofs.Sim.Discovery

namespace WireBridge.Search

open Address (Before Neighbour Ordered Parts)

variable {ε : Type}

/-! ### The first pass -/

/-- The first byte of a code made of one byte. -/
theorem family_ofBytes (family : FamilyCode) : (Address.ofBytes [family]).family = family := by
  have table : ∀ byte : Fin 256, (Address.ofBytes [.ofFin byte]).family = .ofFin byte := by
    decide +kernel
  exact table family.toFin

/-- A code made of one byte has zeros after it. -/
theorem bit_ofBytes (family : FamilyCode) {position : Nat} (beyond : 8 ≤ position) :
    (Address.ofBytes [family]).bit position = false := by
  unfold Address.ofBytes Address.bit Address.littleEndian
  simp only [List.foldr_cons, List.foldr_nil, Nat.mul_zero, Nat.add_zero, BitVec.getLsbD_ofNat,
    Bool.and_eq_false_imp]
  intro _
  refine Nat.testBit_lt_two_pow (Nat.lt_of_lt_of_le family.toNat_lt ?_)
  exact Nat.pow_le_pow_right (by decide) beyond

/-- A family search takes the bits of its family, zeros after them, and a one at the last
position. -/
theorem direction_start (family : FamilyCode) {position : Nat} (inside : position < 64) :
    (start .normal (some family)).direction (position + 1) =
      if position = 63 then true else (Address.ofBytes [family]).bit position := by
  by_cases last : position = 63
  · subst last
    rfl
  · rw [if_neg last]
    exact if_pos (show position + 1 < 64 by omega)

/-- **The first pass of a family search** ends at the first code of the family, if there is one, or
at its neighbour. -/
theorem Chosen.ofFamily {family : FamilyCode} {codes : List Address} {target : Address}
    (chosen : Chosen (start .normal (some family)) codes target) {code : Address}
    (member : code ∈ codes) (same : code.family = family) :
    target.family = family ∧ (code = target ∨ Before target code ∨ Neighbour code target) := by
  by_cases found : code = target
  · exact ⟨found ▸ same, .inl found⟩
  · obtain ⟨position, parts⟩ := Address.exists_parts (Ne.symm found)
    have taken := chosen.asked code member position parts
    rw [direction_start family parts.inside] at taken
    by_cases last : position = 63
    · subst last
      have zero : code.bit 63 = false := by simpa [taken] using parts.differ
      exact ⟨(parts.family_eq (by decide)).trans same,
        .inr (.inr (Address.neighbour_iff.mpr ⟨parts.symm, zero⟩))⟩
    · rw [if_neg last] at taken
      have beyond : 8 ≤ position := by
        refine Nat.le_of_not_lt fun below => parts.differ ?_
        rw [taken]
        exact Address.family_eq_iff.mp ((family_ofBytes family).trans same.symm) position below
      exact ⟨(parts.family_eq beyond).trans same,
        .inr (.inl ⟨position, parts, taken.trans (bit_ofBytes family beyond)⟩)⟩

/-- A family search goes on after a code of its family, and ends at any other code. -/
theorem conclude_family (search : Search) {family : FamilyCode}
    (restricted : search.family = some family) (nonzero : search.rom ≠ Address.zero) (last : Nat) :
    (search.conclude last : Except (BusError ε) (Option Address) × Search) =
      if search.rom.family = family then
        (visit search.rom, { search with lastDiscrepancy := last, finished := last == 0 })
      else (.ok none, { search with lastDiscrepancy := last, finished := true }) := by
  unfold conclude visit
  by_cases same : search.rom.family = family
  · have inside : (some family).any (· ≠ search.rom.family) = false := by simp [same]
    simp only [restricted, inside, if_neg nonzero, Bool.false_eq_true, if_false, if_pos same]
    split <;> rfl
  · have outside : (some family).any (· ≠ search.rom.family) = true := by
      simpa using Ne.symm same
    simp only [restricted, outside, if_neg nonzero, if_true, if_neg same]
    rfl

/-! ### Neighbours -/

/-- A code whose neighbour takes part. -/
def Shadowed (codes : List Address) (code : Address) : Prop :=
  ∃ other ∈ codes, Neighbour code other

instance (codes : List Address) (code : Address) : Decidable (Shadowed codes code) :=
  inferInstanceAs (Decidable (∃ other ∈ codes, Neighbour code other))

/-- A valid code has no valid neighbour. -/
theorem not_shadowed {codes : List Address} (valid : ∀ code ∈ codes, code.valid = true)
    {code : Address} (fits : code.valid = true) : ¬ Shadowed codes code :=
  fun ⟨other, member, next⟩ => next.not_valid fits (valid other member)

/-- The codes of a family that its search visits: all, but for the first one if its neighbour takes
part. -/
def unshadowed (codes : List Address) : List Address → List Address
  | [] => []
  | head :: tail => if Shadowed codes head then tail else head :: tail

theorem unshadowed_of_valid {codes order : List Address}
    (valid : ∀ code ∈ codes, code.valid = true) (fits : ∀ code ∈ order, code.valid = true) :
    unshadowed codes order = order := by
  cases order with
  | nil => rfl
  | cons head tail => exact if_neg (not_shadowed valid (fits head List.mem_cons_self))

/-- **The code of the first pass** is the first one that the search visits. -/
theorem Chosen.unshadowed_eq {family : FamilyCode} {codes order : List Address} {target : Address}
    (chosen : Chosen (start .normal (some family)) codes target) (ordered : Ordered order)
    (mem_order : ∀ code, code ∈ order ↔ code ∈ codes ∧ code.family = family)
    (same : target.family = family) :
    ∃ rest, unshadowed codes order = target :: rest ∧ Ordered rest ∧
      ∀ code, code ∈ rest ↔ (code ∈ codes ∧ code.family = family) ∧ Before target code := by
  have found : target ∈ order := (mem_order target).mpr ⟨chosen.member, same⟩
  obtain ⟨head, tail, rfl⟩ := List.exists_cons_of_ne_nil (List.ne_nil_of_mem found)
  obtain ⟨above, tailOrdered⟩ := List.pairwise_cons.mp ordered
  obtain ⟨headMember, headFamily⟩ := (mem_order head).mp List.mem_cons_self
  rcases (chosen.ofFamily headMember headFamily).2 with first | before | next
  · subst first
    have alone : ¬ Shadowed codes head := by
      rintro ⟨other, member, next⟩
      obtain ⟨parts, zero⟩ := Address.neighbour_iff.mp next
      have taken := chosen.asked other member 63 parts
      rw [direction_start family (by decide), if_pos rfl, zero] at taken
      exact absurd taken Bool.false_ne_true
    refine ⟨tail, if_neg alone, tailOrdered, fun code => ?_⟩
    rw [Address.mem_tail_iff ordered, mem_order]
  · rcases List.mem_cons.mp found with here | later
    · exact absurd before (here ▸ Before.irrefl target)
    · exact absurd before (above target later).asymm
  · have later : target ∈ tail := by
      rcases List.mem_cons.mp found with here | later
      · exact absurd here.symm next.before.ne
      · exact later
    obtain ⟨second, rest, rfl⟩ := List.exists_cons_of_ne_nil (List.ne_nil_of_mem later)
    -- nothing comes between the neighbours, so the target is the second code
    obtain rfl : target = second := by
      rcases List.mem_cons.mp later with here | further
      · exact here
      · have low := above second List.mem_cons_self
        exact absurd ((List.pairwise_cons.mp tailOrdered).1 target further) (next.not_between low)
    refine ⟨rest, if_pos ⟨target, chosen.member, next⟩, (List.pairwise_cons.mp tailOrdered).2,
      fun code => ?_⟩
    rw [Address.mem_tail_iff tailOrdered, ← mem_order code]
    constructor
    · exact fun ⟨member, after⟩ => ⟨List.mem_cons_of_mem _ member, after⟩
    · rintro ⟨member, after⟩
      rcases List.mem_cons.mp member with rfl | behind
      · exact absurd after next.before.asymm
      · exact ⟨behind, after⟩

/-! ### The codes of a family that are left -/

/-- A family search between two passes, with the codes of the family that are left. -/
structure PastOf (family : FamilyCode) (codes : List Address) (search : Search)
    (rest : List Address) : Prop where
  normal : search.kind = .normal
  restricted : search.family = some family
  member : search.rom ∈ codes
  here : search.rom.family = family
  zero : LastZero codes search.rom 0 search.lastDiscrepancy
  finished : search.finished = (search.lastDiscrepancy == 0)
  ordered : Ordered rest
  mem_rest : ∀ code, code ∈ rest ↔ (code ∈ codes ∧ code.family = family) ∧ Before search.rom code

/-- While codes of the family are left, the search goes on. -/
theorem PastOf.going {family : FamilyCode} {codes : List Address} {search : Search}
    {head : Address} {tail : List Address} (past : PastOf family codes search (head :: tail)) :
    search.lastDiscrepancy ≠ 0 := by
  obtain ⟨⟨member, _⟩, after⟩ := (past.mem_rest head).mp List.mem_cons_self
  rcases past.zero with ⟨_, none⟩ | ⟨_, _, _, last, _⟩
  · exact absurd after (none head member)
  · omega

/-- The next pass ends at the first code that is left, or past the branch of the family. -/
theorem PastOf.chosen {family : FamilyCode} {codes : List Address} {search : Search}
    {rest : List Address} (past : PastOf family codes search rest)
    (going : search.lastDiscrepancy ≠ 0) {target : Address}
    (chosen : Chosen search codes target) :
    (target.family = family ∧ rest.head? = some target) ∨ (target.family ≠ family ∧ rest = []) := by
  obtain ⟨after, least⟩ := chosen.next past.zero going
  cases rest with
  | nil =>
    refine .inr ⟨fun same => ?_, rfl⟩
    have left := (past.mem_rest target).mpr ⟨⟨chosen.member, same⟩, after⟩
    exact absurd left List.not_mem_nil
  | cons head tail =>
    obtain ⟨⟨headMember, headFamily⟩, headAfter⟩ := (past.mem_rest head).mp List.mem_cons_self
    by_cases first : head = target
    · exact .inl ⟨first ▸ headFamily, congrArg some first⟩
    -- the target would come between two codes of the family, so it would be one that is left
    · have between := least head headMember headAfter first
      have same := (after.family_eq between (past.here.trans headFamily.symm)).trans past.here
      have left := (past.mem_rest target).mpr ⟨⟨chosen.member, same⟩, after⟩
      rcases List.mem_cons.mp left with here | later
      · exact absurd here.symm first
      · exact absurd ((List.pairwise_cons.mp past.ordered).1 target later) between.asymm

end WireBridge.Search

namespace WireBridge.Sim

open Address (Before Ordered)
open Search (calls note visit unshadowed PastOf Chosen LastZero Seeks)

variable {σ ε : Type} {master : Master σ ε} {line : σ → Line}

/-- A line with a code has a device. -/
theorem Line.devices_ne_nil {here : Line} {code : Address} (member : code ∈ here.codes) :
    here.devices ≠ [] := by
  intro none
  rw [Line.codes, none] at member
  exact absurd member List.not_mem_nil

/-! ### Searches that find some codes in turn -/

/-- A search that finds some codes in turn and then ends. -/
abbrev Yields (master : Master σ ε) (line : σ → Line) : List Address → Search × σ → Prop :=
  Visits master line fun code => .ok (some code)

/-- A search that visits valid codes finds them. -/
theorem Visits.yields {rest : List Address} {state : Search × σ}
    (visits : Visits master line visit rest state) (valid : ∀ code ∈ rest, code.valid = true) :
    Yields master line rest state :=
  visits.congr fun code member => if_pos (valid code member)

/-- **A search of enough passes** succeeds and adds the codes to those that were found before. -/
theorem Yields.passes {rest : List Address} {state : Search × σ}
    (yields : Yields master line rest state) :
    ∀ {left : Nat} {found : List Address}, rest.length ≤ left → (found ++ rest).Nodup →
      ∃ reached, Search.passes master left state found = (.ok (), found ++ rest, reached) ∧
        Unchanged (line state.2) (line reached) := by
  induction yields with
  | @ended search _ state reached nextEq _ kept =>
    intro left found _ _
    cases left with
    | zero => exact ⟨state, by rw [List.append_nil]; rfl, .refl _⟩
    | succ left => exact ⟨reached, by rw [Search.passes, nextEq, List.append_nil], kept⟩
  | @visited _ _ _ _ code rest nextEq kept _ ih =>
    intro left found enough distinct
    obtain ⟨left, rfl⟩ : ∃ fewer, left = fewer + 1 :=
      ⟨left - 1, by rw [List.length_cons] at enough; omega⟩
    have fresh : found.contains code = false := by
      simpa using fun member => (List.nodup_append.mp distinct).2.2 code member code
        List.mem_cons_self rfl
    have noted : note found code = found ++ [code] := by rw [note, fresh]; rfl
    have onward : found ++ code :: rest = found ++ [code] ++ rest := by simp
    rw [onward] at distinct ⊢
    obtain ⟨reached, passesEq, keptAfter⟩ := ih (Nat.le_of_succ_le_succ enough) distinct
    refine ⟨reached, ?_, kept.trans keptAfter⟩
    rw [Search.passes, nextEq]
    dsimp only
    rw [noted, passesEq]

/-! ### Passes of a family search -/

/-- A pass of a family search visits a code of the family, or ends past its branch. -/
theorem Drives.next_ofFamily (drives : Drives master line) {family : FamilyCode} {search : Search}
    {state : σ} (normal : search.kind = .normal) (restricted : search.family = some family)
    (going : search.finished = false) (some : (line state).devices ≠ [])
    (nonzero : ∀ code ∈ (line state).codes, code ≠ Address.zero) :
    ∃ target after reached, Chosen search (line state).codes target ∧
      Unchanged (line state) (line reached) ∧
      ((target.family = family ∧
          (Search.next master).perform (search, state) = (visit target, (after, reached)) ∧
          ∃ last, LastZero (line state).codes target 0 last ∧
            after = { search with rom := target, lastDiscrepancy := last, finished := last == 0 }) ∨
        (target.family ≠ family ∧
          (Search.next master).perform (search, state) = (.ok none, (after, reached)) ∧
          after.finished = true)) := by
  obtain ⟨target, last, reached, chosen, zero, nextEq, devices, overrun⟩ :=
    drives.next_perform normal going some
  have concluded := @Search.conclude_family ε { search with rom := target } family restricted
    (nonzero target chosen.member) last
  generalize @Search.conclude ε { search with rom := target } last = result at nextEq concluded
  subst concluded
  by_cases same : target.family = family
  · simp only [if_pos same] at nextEq
    exact ⟨target, _, reached, chosen, ⟨devices, overrun⟩, .inl ⟨same, nextEq, last, zero, rfl⟩⟩
  · simp only [if_neg same] at nextEq
    exact ⟨target, _, reached, chosen, ⟨devices, overrun⟩, .inr ⟨same, nextEq, rfl⟩⟩

/-- **Between two passes** a family search has the codes of the family before it that come after its
last code. -/
theorem Drives.visits_pastOf (drives : Drives master line) {family : FamilyCode}
    {codes : List Address} (nonzero : ∀ code ∈ codes, code ≠ Address.zero) (rest : List Address) :
    ∀ {search : Search} {state : σ}, PastOf family codes search rest →
      (line state).codes = codes → Visits master line visit rest (search, state) := by
  induction rest with
  | nil =>
    intro search state past attached
    subst attached
    by_cases stopped : search.finished = true
    · exact .of_finished stopped state
    · have going : search.lastDiscrepancy ≠ 0 :=
        fun none => stopped (by rw [past.finished, none]; rfl)
      have present := Line.devices_ne_nil past.member
      obtain ⟨target, after, reached, chosen, kept, ⟨same, _⟩ | ⟨_, nextEq, done⟩⟩ :=
        drives.next_ofFamily past.normal past.restricted (Bool.eq_false_iff.mpr stopped) present
          nonzero
      · rcases past.chosen going chosen with ⟨_, first⟩ | ⟨other, _⟩
        · exact absurd first (Option.some_ne_none target).symm
        · exact absurd same other
      · exact .ended nextEq done kept
  | cons head tail ih =>
    intro search state past attached
    subst attached
    have going := past.going
    have unfinished : search.finished = false := by rw [past.finished]; exact beq_false_of_ne going
    have present := Line.devices_ne_nil past.member
    obtain ⟨target, after, reached, chosen, kept, ⟨same, nextEq, last, zero, rfl⟩ | ⟨other, _⟩⟩ :=
      drives.next_ofFamily past.normal past.restricted unfinished present nonzero
    · obtain rfl : head = target := by
        rcases past.chosen going chosen with ⟨_, first⟩ | ⟨other, _⟩
        · exact Option.some_inj.mp first
        · exact absurd same other
      refine .visited nextEq kept (ih ⟨past.normal, past.restricted, chosen.member, same, zero,
        rfl, (List.pairwise_cons.mp past.ordered).2, fun code => ?_⟩ kept.codes)
      have headAfter := ((past.mem_rest head).mp List.mem_cons_self).2
      rw [Address.mem_tail_iff past.ordered, past.mem_rest]
      exact ⟨fun ⟨⟨attached, _⟩, later⟩ => ⟨attached, later⟩,
        fun ⟨attached, later⟩ => ⟨⟨attached, headAfter.trans later⟩, later⟩⟩
    · rcases past.chosen going chosen with ⟨same, _⟩ | ⟨_, empty⟩
      · exact absurd same other
      · exact absurd empty (List.cons_ne_nil head tail)

/-- **A family search visits the codes of the family** in the order of the bits that are sent, but
for the first one if its neighbour is there too. -/
theorem Drives.visits_family (drives : Drives master line) (family : FamilyCode) {state : σ}
    (nonzero : ∀ code ∈ (line state).codes, code ≠ Address.zero) {order : List Address}
    (ordered : Ordered order)
    (mem_order : ∀ code, code ∈ order ↔ code ∈ (line state).codes ∧ code.family = family) :
    Visits master line visit (unshadowed (line state).codes order)
      (Search.start .normal (some family), state) := by
  have going : (Search.start .normal (some family)).finished = false := rfl
  by_cases present : (line state).devices = []
  · obtain ⟨reached, nextEq, devices, overrun⟩ := drives.next_empty going present
    have empty : order = [] := List.eq_nil_iff_forall_not_mem.mpr fun code found =>
      Line.devices_ne_nil ((mem_order code).mp found).1 present
    rw [empty]
    exact .ended nextEq rfl ⟨devices, overrun⟩
  · obtain ⟨target, after, reached, chosen, kept,
      ⟨same, nextEq, last, zero, rfl⟩ | ⟨other, nextEq, stopped⟩⟩ :=
      drives.next_ofFamily rfl rfl going present nonzero
    · obtain ⟨rest, visited, restOrdered, mem_rest⟩ :=
        chosen.unshadowed_eq ordered mem_order same
      rw [visited]
      exact .visited nextEq kept (drives.visits_pastOf nonzero rest
        ⟨rfl, rfl, chosen.member, same, zero, rfl, restOrdered, mem_rest⟩ kept.codes)
    · have empty : order = [] := List.eq_nil_iff_forall_not_mem.mpr fun code found => by
        obtain ⟨member, same⟩ := (mem_order code).mp found
        exact other (chosen.ofFamily member same).1
      rw [empty]
      exact .ended nextEq stopped kept

/-! ### Searches of valid codes -/

/-- What a search looks for can be listed in the order of the bits that are sent. -/
theorem exists_sought {codes : List Address} (distinct : codes.Nodup)
    (family : Option FamilyCode) :
    ∃ order, order.Perm (codes.filter fun code => !family.any (· != code.family)) ∧
      Ordered order ∧ ∀ code, code ∈ order ↔ code ∈ codes ∧ Seeks family code := by
  obtain ⟨order, perm, ordered⟩ :=
    Address.exists_ordered (distinct.filter fun code => !family.any (· != code.family))
  refine ⟨order, perm, ordered, fun code => ?_⟩
  rw [perm.mem_iff, List.mem_filter, Search.seeks_iff, Bool.not_eq_true']

/-- **A search of valid codes finds what it looks for** in the order of the bits that are sent. -/
theorem Drives.yields_start (drives : Drives master line) {family : Option FamilyCode}
    {codes : List Address} (nonzero : ∀ code ∈ codes, code ≠ Address.zero)
    (valid : ∀ code ∈ codes, code.valid = true) {order : List Address} (ordered : Ordered order)
    (mem_order : ∀ code, code ∈ order ↔ code ∈ codes ∧ Seeks family code) {state : σ}
    (attached : (line state).codes = codes) :
    Yields master line order (Search.start .normal family, state) := by
  subst attached
  have fits : ∀ code ∈ order, code.valid = true :=
    fun code member => valid code ((mem_order code).mp member).1
  cases family with
  | none =>
    have visits := drives.visits_all nonzero ordered fun code =>
      (mem_order code).trans (and_iff_left (Search.seeks_none code))
    exact visits.yields fits
  | some family =>
    have visits := drives.visits_family family nonzero ordered fun code =>
      (mem_order code).trans (and_congr_right' Search.seeks_some)
    rw [Search.unshadowed_of_valid valid fits] at visits
    exact visits.yields fits

/-! ### Discovery of a family -/

/-- **Family discovery is exact.** On a line whose devices have different valid codes other than
zero, whatever the line was doing, the passes of a search of a family find each code of the family
once, in the order of the bits that are sent, and every later pass tells that no code is left. No
device is changed, and no position has more slots than can be counted. -/
theorem calls_family (attached : Line) (distinct : attached.codes.Nodup)
    (nonzero : ∀ code ∈ attached.codes, code ≠ Address.zero)
    (valid : ∀ code ∈ attached.codes, code.valid = true) (family : FamilyCode) :
    ∃ order, order.Perm (attached.codes.filter fun code => code.family == family) ∧
      Ordered order ∧ ∀ extra,
        (calls (Sim.master : Master Line ε) (order.length + extra)
            (Search.start .normal (some family), attached)).1 =
          order.map (fun code => .ok (some code)) ++ List.replicate extra (.ok none) ∧
        Unchanged attached (calls (Sim.master : Master Line ε) (order.length + extra)
            (Search.start .normal (some family), attached)).2.2 := by
  obtain ⟨order, perm, ordered⟩ :=
    Address.exists_ordered (distinct.filter fun code => code.family == family)
  have mem_order (code : Address) :
      code ∈ order ↔ code ∈ attached.codes ∧ Seeks (some family) code := by
    rw [perm.mem_iff, List.mem_filter, beq_iff_eq, Search.seeks_some]
  have drives : Drives (Sim.master : Master Line ε) id := master_drives
  exact ⟨order, perm, ordered,
    fun extra => (drives.yields_start nonzero valid ordered mem_order rfl).calls extra⟩

/-- Two thermometers are found around a device whose family code differs from theirs in one bit, in
the order of their codes and not in that in which they were attached. -/
theorem calls_family_two :
    let line : Line :=
      { Line.empty with
        devices := [.fresh ⟨0x2900000000000128⟩ .presenceOnly,
          .fresh ⟨0xee00000000000168⟩ .presenceOnly,
          .fresh ⟨0x7000000000000228⟩ .presenceOnly] }
    line.codes.Nodup ∧ (∀ code ∈ line.codes, code ≠ Address.zero) ∧
      (∀ code ∈ line.codes, code.valid = true) ∧
      (calls (Sim.master : Master Line Empty) 3 (Search.start .normal (some 0x28), line)).1 =
        [.ok (some ⟨0x7000000000000228⟩), .ok (some ⟨0x2900000000000128⟩), .ok none] := by
  intro line
  have distinct : line.codes.Nodup := by decide
  have nonzero : ∀ code ∈ line.codes, code ≠ Address.zero := by decide
  have valid : ∀ code ∈ line.codes, code.valid = true := by decide +kernel
  obtain ⟨order, perm, ordered, outcomes⟩ := @calls_family Empty line distinct nonzero valid 0x28
  have two : line.codes.filter (fun code => code.family == 0x28) =
      [⟨0x2900000000000128⟩, ⟨0x7000000000000228⟩] := by decide
  rw [two] at perm
  have swapped : ([⟨0x7000000000000228⟩, ⟨0x2900000000000128⟩] : List Address).Perm
      [⟨0x2900000000000128⟩, ⟨0x7000000000000228⟩] := .swap _ _ _
  have swappedOrdered : Ordered [⟨0x7000000000000228⟩, ⟨0x2900000000000128⟩] :=
    List.pairwise_pair.mpr ⟨8, ⟨by decide, by decide, by decide⟩, by decide⟩
  have orderEq := Address.ordered_unique (perm.trans swapped.symm) ordered swappedOrdered
  have found := (outcomes 1).1
  rw [orderEq] at found
  exact ⟨distinct, nonzero, valid, found⟩

end WireBridge.Sim
