/-
**One pass of a search as a descent through a binary tree.**

The codes on a line are the leaves of a binary tree with a level for each bit. A pass goes down from
the root; where codes on both sides of a node take part, the search chooses the side.

* `Search.WiredAnd`: a line on which the slots of a position show the wired-and of the bits of the
  codes that take part, and on which a written bit leaves those codes that have it;
* `Search.walk_perform`: on such a line a walk ends at a code that takes part, which was chosen
  wherever it parts from another one (`Search.Chosen`), and yields the last position at which a code
  with a one was passed over (`Search.LastZero`);
* `Search.Chosen.first`, `Search.Chosen.next`: the code of the first pass comes before all others,
  and the code of a later pass is the first one after the code of the pass before.
-/

import WireBridge.Bus.Search
import WireBridge.Proofs.Rom.SendingOrder

namespace WireBridge.Search

open Address (Parts Before)

/-! ### Codes on a line -/

/-- The codes that go on after a bit was written. -/
def goOn (codes : List Address) (position : Nat) (taken : Bool) : List Address :=
  codes.filter fun code => code.bit position == taken

/-- What the slots of a position show when some codes take part. -/
def shown (codes : List Address) (position : Nat) (direction : Bool) : Triplet :=
  let id := codes.all fun code => code.bit position
  let complement := codes.all fun code => !code.bit position
  ⟨id, complement, if id = complement then direction else id⟩

theorem mem_goOn {codes : List Address} {position : Nat} {taken : Bool} {code : Address} :
    code ∈ goOn codes position taken ↔ code ∈ codes ∧ code.bit position = taken := by
  simp [goOn]

/-- If codes take part, one of them drives the line low. -/
theorem shown_answered {codes : List Address} (some : codes ≠ []) (position : Nat)
    (direction : Bool) :
    ((shown codes position direction).id && (shown codes position direction).complement) =
      false := by
  obtain ⟨code, rest, rfl⟩ := List.exists_cons_of_ne_nil some
  cases bit : code.bit position <;> simp [shown, bit]

/-- A code with another bit than the one that was taken shows that there was a choice. -/
theorem shown_taken {codes : List Address} {position : Nat} {direction : Bool} {code : Address}
    (member : code ∈ codes)
    (other : code.bit position ≠ (shown codes position direction).taken) :
    (shown codes position direction).taken = direction ∧
      (shown codes position direction).id = false ∧
      (shown codes position direction).complement = false := by
  unfold shown at other ⊢
  generalize idEq : (codes.all fun code => code.bit position) = id at other ⊢
  generalize complementEq : (codes.all fun code => !code.bit position) = complement at other ⊢
  cases id with
  | true =>
    have one : code.bit position = true := List.all_eq_true.mp idEq code member
    cases complement with
    | true => simpa [one] using List.all_eq_true.mp complementEq code member
    | false => exact absurd (by simpa using one) other
  | false =>
    cases complement with
    | true =>
      have zero : code.bit position = false := by
        simpa using List.all_eq_true.mp complementEq code member
      exact absurd (by simpa using zero) other
    | false => exact ⟨by simp, rfl, rfl⟩

/-- Some code has the bit that is taken. -/
theorem goOn_ne_nil {codes : List Address} (some : codes ≠ []) (position : Nat)
    (direction : Bool) :
    goOn codes position (shown codes position direction).taken ≠ [] := by
  obtain ⟨code, rest, rfl⟩ := List.exists_cons_of_ne_nil some
  by_cases same : code.bit position = (shown (code :: rest) position direction).taken
  · exact List.ne_nil_of_mem (mem_goOn.mpr ⟨List.mem_cons_self, same⟩)
  · obtain ⟨-, idLow, complementLow⟩ := shown_taken List.mem_cons_self same
    -- neither slot read one, so both bits occur
    have both : ∀ value, ∃ code' ∈ code :: rest, code'.bit position = value := by
      intro value
      cases value with
      | false =>
        obtain ⟨found, member, zero⟩ := List.all_eq_false.mp idLow
        exact ⟨found, member, Bool.eq_false_iff.mpr zero⟩
      | true =>
        obtain ⟨found, member, one⟩ := List.all_eq_false.mp complementLow
        exact ⟨found, member, by simpa using one⟩
    obtain ⟨found, member, bit⟩ := both (shown (code :: rest) position direction).taken
    exact List.ne_nil_of_mem (mem_goOn.mpr ⟨member, bit⟩)

variable {σ ε : Type}

/-- A line that faces the positions of a search one after the other, each time with the codes that
still take part. -/
def WiredAnd (master : Master σ ε) (facing : Nat → List Address → σ → Prop) : Prop :=
  ∀ {position codes state} (direction : Bool), position < 64 → codes ≠ [] →
    facing position codes state →
    ∃ reached,
      (slots master direction).perform state = (.ok (shown codes position direction), reached) ∧
      facing (position + 1) (goOn codes position (shown codes position direction).taken) reached

/-! ### The code at which a pass ends -/

/-- The code at which a pass ends: where it parts from another code, it has the bit that the search
asked for. -/
structure Chosen (search : Search) (codes : List Address) (target : Address) : Prop where
  member : target ∈ codes
  asked : ∀ code ∈ codes, ∀ position, Parts target code position →
    target.bit position = search.direction (position + 1)

/-- The last position, counted from one, at which a code with a one was passed over, or a number
given for the case that there is none. -/
def LastZero (codes : List Address) (target : Address) (none last : Nat) : Prop :=
  (last = none ∧ ∀ code ∈ codes, ¬ Before target code) ∨
    ∃ code ∈ codes, ∃ position, last = position + 1 ∧ Parts target code position ∧
      target.bit position = false ∧
      ∀ other ∈ codes, ∀ earlier, Parts target other earlier → target.bit earlier = false →
        earlier ≤ position

/-- Codes that agree on the bits sent before a position. -/
def AgreeBefore (codes : List Address) (position : Nat) : Prop :=
  ∀ first ∈ codes, ∀ second ∈ codes, ∀ earlier, earlier < position →
    first.bit earlier = second.bit earlier

theorem AgreeBefore.goOn {codes : List Address} {position : Nat}
    (agree : AgreeBefore codes position) (taken : Bool) :
    AgreeBefore (goOn codes position taken) (position + 1) := by
  intro first firstMember second secondMember earlier below
  obtain ⟨firstIn, firstBit⟩ := mem_goOn.mp firstMember
  obtain ⟨secondIn, secondBit⟩ := mem_goOn.mp secondMember
  by_cases same : earlier = position
  · rw [same, firstBit, secondBit]
  · exact agree first firstIn second secondIn earlier (by omega)

theorem direction_follow (search : Search) {position later : Nat} (inside : position < 64)
    (different : later ≠ position) (taken : Bool) :
    (search.follow (position + 1) taken).direction (later + 1) = search.direction (later + 1) := by
  unfold follow direction
  simp only [Nat.add_sub_cancel, Address.bit_setBit _ inside, if_neg different]

/-- The codes that dropped out do not matter for the rest of a pass, except that the search chose
between them and the others. -/
theorem Chosen.of_goOn {search : Search} {codes : List Address} {position : Nat}
    (inside : position < 64)
    (agree : AgreeBefore codes position) {target : Address}
    (chosen : Chosen
      (search.follow (position + 1) (shown codes position (search.direction (position + 1))).taken)
      (goOn codes position (shown codes position (search.direction (position + 1))).taken)
      target) :
    Chosen search codes target := by
  obtain ⟨member, bit⟩ := mem_goOn.mp chosen.member
  refine ⟨member, fun code codeMember where' parts => ?_⟩
  by_cases same : code.bit position = (shown codes position (search.direction (position + 1))).taken
  · have later : where' ≠ position := fun equal => by
      subst equal
      exact parts.differ (bit.trans same.symm)
    rw [chosen.asked code (mem_goOn.mpr ⟨codeMember, same⟩) where' parts,
      direction_follow search inside later]
  · have here : Parts target code position :=
      ⟨inside, agree target member code codeMember, fun equal => same (equal ▸ bit)⟩
    rw [parts.unique here, bit]
    exact (shown_taken codeMember same).1

/-- The same for the last zero. -/
theorem LastZero.of_goOn {codes : List Address} {position : Nat} (inside : position < 64)
    (agree : AgreeBefore codes position) (direction : Bool) {target : Address} {none last : Nat}
    (member : target ∈ goOn codes position (shown codes position direction).taken)
    (zero : LastZero (goOn codes position (shown codes position direction).taken) target
      (if (shown codes position direction).id || (shown codes position direction).complement ||
        (shown codes position direction).taken then none else position + 1) last) :
    LastZero codes target none last := by
  obtain ⟨targetMember, bit⟩ := mem_goOn.mp member
  -- a code that dropped out parts from the target here
  have dropped : ∀ code ∈ codes, code ∉ goOn codes position (shown codes position direction).taken →
      Parts target code position := fun code codeMember out =>
    ⟨inside, agree target targetMember code codeMember, fun equal =>
      out (mem_goOn.mpr ⟨codeMember, equal.symm.trans bit⟩)⟩
  -- one that goes on parts from it later
  have later : ∀ code ∈ goOn codes position (shown codes position direction).taken, ∀ other,
      Parts target code other → position < other := by
    intro code codeMember other parts
    obtain ⟨inCodes, codeBit⟩ := mem_goOn.mp codeMember
    rcases Nat.lt_trichotomy other position with less | same | more
    · exact absurd (agree target targetMember code inCodes other less) parts.differ
    · exact absurd (by rw [same, bit, codeBit]) parts.differ
    · exact more
  rcases zero with
    ⟨lastEq, noneAfter⟩ | ⟨code, codeMember, other, lastEq, parts, targetZero, highest⟩
  · by_cases passed : ∃ code ∈ codes,
        code ∉ goOn codes position (shown codes position direction).taken ∧
        target.bit position = false
    · obtain ⟨code, codeMember, out, targetZero⟩ := passed
      have apart : code.bit position ≠ (shown codes position direction).taken := fun equal =>
        out (mem_goOn.mpr ⟨codeMember, equal⟩)
      have choice := shown_taken codeMember apart
      rw [choice.2.1, choice.2.2, ← bit, targetZero] at lastEq
      refine .inr ⟨code, codeMember, position, lastEq, dropped code codeMember out, targetZero, ?_⟩
      intro third thirdMember earlier parts zeroThere
      by_cases goes : third ∈ goOn codes position (shown codes position direction).taken
      · exact absurd ⟨earlier, parts, zeroThere⟩ (noneAfter third goes)
      · exact Nat.le_of_eq (parts.unique (dropped third thirdMember goes))
    · refine .inl ⟨?_, fun code codeMember before => ?_⟩
      · rw [lastEq]
        refine if_pos (Bool.of_not_eq_false fun low => passed ?_)
        simp only [Bool.or_eq_false_iff] at low
        obtain ⟨⟨-, complementLow⟩, takenLow⟩ := low
        obtain ⟨code, codeMember, one⟩ : ∃ code ∈ codes, code.bit position = true := by
          simpa [shown] using complementLow
        refine ⟨code, codeMember, fun goes => ?_, bit.trans takenLow⟩
        exact Bool.noConfusion (one.symm.trans ((mem_goOn.mp goes).2.trans takenLow))
      · obtain ⟨other, parts, targetZero⟩ := before
        by_cases goes : code ∈ goOn codes position (shown codes position direction).taken
        · exact noneAfter code goes ⟨other, parts, targetZero⟩
        · rw [parts.unique (dropped code codeMember goes)] at targetZero
          exact passed ⟨code, codeMember, goes, targetZero⟩
  · refine .inr ⟨code, (mem_goOn.mp codeMember).1, other, lastEq, parts, targetZero, ?_⟩
    intro third thirdMember earlier thirdParts zeroThere
    by_cases goes : third ∈ goOn codes position (shown codes position direction).taken
    · exact highest third goes earlier thirdParts zeroThere
    · rw [thirdParts.unique (dropped third thirdMember goes)]
      exact Nat.le_of_lt (later code codeMember other parts)

/-- One position of a walk on a line where some codes take part. -/
theorem walk_succ {master : Master σ ε} {facing : Nat → List Address → σ → Prop}
    (wired : WiredAnd master facing) {left position : Nat} (here : left + 1 + position = 64)
    {codes : List Address} (some : codes ≠ []) {state : σ} (there : facing position codes state)
    (search : Search) (none : Nat) :
    ∃ reached,
      (walk master (left + 1) none).perform (search, state) =
        (walk master left
          (if (shown codes position (search.direction (position + 1))).id ||
              (shown codes position (search.direction (position + 1))).complement ||
              (shown codes position (search.direction (position + 1))).taken
            then none else position + 1)).perform
          (search.follow (position + 1)
            (shown codes position (search.direction (position + 1))).taken, reached) ∧
      facing (position + 1)
        (goOn codes position (shown codes position (search.direction (position + 1))).taken)
        reached := by
  obtain ⟨reached, slotsEq, further⟩ :=
    wired (search.direction (position + 1)) (by omega) some there
  have next : 64 - left = position + 1 := by omega
  refine ⟨reached, ?_, further⟩
  rw [walk]
  simp only [Action.perform_bind, Action.perform_current, Action.perform_onSecond, next, slotsEq,
    shown_answered some, Bool.false_eq_true, if_false, Action.perform_update]

/-- **A pass of a search.** On a line where some codes take part, the rest of a walk ends at one of
them. The bits of that code from the first position of this rest on have then been noted. -/
theorem walk_perform {master : Master σ ε} {facing : Nat → List Address → σ → Prop}
    (wired : WiredAnd master facing) (remaining : Nat) :
    ∀ {position : Nat} {codes : List Address} {state : σ} (search : Search) (none : Nat),
      remaining + position = 64 → codes ≠ [] → facing position codes state →
      AgreeBefore codes position →
      ∃ target rom last reached,
        (walk master remaining none).perform (search, state) =
          (.ok (.some last), ({ search with rom := rom }, reached)) ∧
        Chosen search codes target ∧ LastZero codes target none last ∧
        (∀ asked, asked < position → rom.bit asked = search.rom.bit asked) ∧
        (∀ asked, position ≤ asked → asked < 64 → rom.bit asked = target.bit asked) ∧
        ∃ left, facing 64 left reached := by
  induction remaining with
  | zero =>
    intro position codes state search none here some there agree
    obtain rfl : position = 64 := by omega
    obtain ⟨target, rest, rfl⟩ := List.exists_cons_of_ne_nil some
    have together : ∀ code ∈ target :: rest, ∀ position, ¬ Parts target code position :=
      fun code member position parts =>
        parts.differ (agree target List.mem_cons_self code member position parts.inside)
    refine ⟨target, search.rom, none, state, rfl, ⟨List.mem_cons_self, ?_⟩, .inl ⟨rfl, ?_⟩,
      fun _ _ => rfl, fun asked beyond inside => absurd inside (Nat.not_lt.mpr beyond),
      target :: rest, there⟩
    · exact fun code member position parts => absurd parts (together code member position)
    · exact fun code member ⟨position, parts, _⟩ => together code member position parts
  | succ left ih =>
    intro position codes state search none here some there agree
    have inside : position < 64 := by omega
    obtain ⟨reached, walkEq, further⟩ := walk_succ wired here some there search none
    obtain ⟨target, rom, last, final, restEq, chosen, zero, before, after, facingEnd⟩ :=
      ih _ _ (by omega) (goOn_ne_nil some _ _) further (agree.goOn _)
    refine ⟨target, rom, last, final, walkEq.trans restEq, chosen.of_goOn inside agree,
      zero.of_goOn inside agree _ chosen.member, fun asked below => ?_, fun asked low below => ?_,
      facingEnd⟩
    · rw [before asked (by omega)]
      exact (Address.bit_setBit _ inside _ asked).trans (if_neg (by omega))
    · by_cases same : asked = position
      · rw [before asked (by omega)]
        refine ((Address.bit_setBit _ inside _ asked).trans (if_pos same)).trans ?_
        rw [same, (mem_goOn.mp chosen.member).2]
      · exact after asked (by omega) below

/-! ### The order of passes -/

/-- **The first pass finds the first code.** -/
theorem Chosen.first {search : Search} (start : search.lastDiscrepancy = 0) {codes : List Address}
    {target : Address} (chosen : Chosen search codes target) {code : Address}
    (member : code ∈ codes) (different : code ≠ target) : Before target code := by
  obtain ⟨position, parts⟩ := Address.exists_parts different.symm
  refine ⟨position, parts, ?_⟩
  rw [chosen.asked code member position parts]
  simp [direction, start]

/-- **A later pass finds the next code.** -/
theorem Chosen.next {search : Search} {codes : List Address}
    (zero : LastZero codes search.rom 0 search.lastDiscrepancy) (more : search.lastDiscrepancy ≠ 0)
    {target : Address} (chosen : Chosen search codes target) :
    Before search.rom target ∧
      ∀ code ∈ codes, Before search.rom code → code ≠ target → Before target code := by
  rcases zero with ⟨none, _⟩ | ⟨witness, witnessMember, last, lastEq, parts, romZero, highest⟩
  · exact absurd none more
  · have witnessOne := parts.bit_eq_true romZero
    have asked : ∀ position, search.direction (position + 1) =
        if position < last then search.rom.bit position else position == last := by
      intro position
      simp only [direction, lastEq, Nat.add_lt_add_iff_right, Nat.add_sub_cancel]
      congr 1
      simp
    -- the target takes the branch of the witness up to the last zero
    have alike : ∀ position, position ≤ last → target.bit position = witness.bit position := by
      intro position
      induction position using Nat.strongRecOn with
      | ind position earlier =>
        intro within
        by_cases same : target.bit position = witness.bit position
        · exact same
        · have apart : Parts target witness position :=
            ⟨Nat.lt_of_le_of_lt within parts.inside,
              fun before below => earlier before below (by omega), same⟩
          rw [chosen.asked witness witnessMember position apart, asked]
          by_cases below : position < last
          · rw [if_pos below]
            exact parts.agree position below
          · have atLast : position = last := by omega
            rw [if_neg below, atLast, witnessOne]
            exact beq_self_eq_true last
    have romParts : Parts search.rom target last :=
      ⟨parts.inside, fun earlier below =>
        (parts.agree earlier below).trans (alike earlier (Nat.le_of_lt below)).symm, by
        rw [romZero, alike last (Nat.le_refl last), witnessOne]
        exact Bool.false_ne_true⟩
    refine ⟨⟨last, romParts, romZero⟩, fun code member after different => ?_⟩
    obtain ⟨position, codeParts, codeZero⟩ := after
    have within := highest code member position codeParts codeZero
    obtain ⟨place, apart⟩ := Address.exists_parts different.symm
    refine ⟨place, apart, ?_⟩
    by_cases below : position < last
    · -- the code leaves the common path earlier than the target does
      have atPosition : Parts target code position :=
        ⟨codeParts.inside, fun earlier under =>
          (romParts.agree earlier (Nat.lt_trans under below)).symm.trans
            (codeParts.agree earlier under), by
          rw [← romParts.agree position below]
          exact codeParts.differ⟩
      rw [apart.unique atPosition, ← romParts.agree position below, codeZero]
    · have atLast : position = last := by omega
      subst atLast
      have beyond : position < place := by
        rcases Nat.lt_trichotomy place position with less | same | more
        · refine absurd ?_ apart.differ
          rw [← romParts.agree place less, codeParts.agree place less]
        · subst same
          refine absurd ?_ apart.differ
          rw [romParts.bit_eq_true romZero, codeParts.bit_eq_true codeZero]
        · exact more
      rw [chosen.asked code member place apart, asked, if_neg (by omega)]
      simp only [beq_eq_false_iff_ne]
      omega

end WireBridge.Search
