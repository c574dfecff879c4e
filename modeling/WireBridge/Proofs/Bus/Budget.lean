/-
**What a search costs on any line.**

A line may answer anything and fail at any time. A pass calls each primitive of the bus master only
so often, and what it tells has been checked.

* `BusCall.Kind`, `Master.counted`: the primitives, and a bus master that notes which are called;
* `Search.Spends`: an action that does the same on a line with such notes, with a bound for each
  primitive and one rule for each way to build an action;
* `Search.next_spends`: a pass keeps to `Search.passCost`;
* `Search.Withstands`, `Channel.Withstood`: what holds of a pass and of a whole search, whatever
  the line answers, with `Channel.discover_withstands`.
-/

import WireBridge.Bus.Trace
import WireBridge.Proofs.Bus.Cursor
import WireBridge.Proofs.Bus.Ending
import WireBridge.Proofs.Bus.Genuine

namespace WireBridge

variable {σ τ ε ε' α β γ ω : Type}

/-! ### Calls of primitives -/

/-- The primitives of a bus master. -/
inductive BusCall.Kind where
  | reset
  | writeByte
  | readByte
  | writeBit
  | readBit
  | readTriplet
deriving DecidableEq

/-- The primitive of a call. -/
def BusCall.kind : BusCall → BusCall.Kind
  | .reset _ => .reset
  | .writeByte .. => .writeByte
  | .readByte _ => .readByte
  | .writeBit .. => .writeBit
  | .readBit _ => .readBit
  | .readTriplet .. => .readTriplet

/-- The bus master with a note of the primitive of each call. -/
abbrev Master.counted (master : Master σ ε) : Master (σ × List BusCall.Kind) ε :=
  master.traced BusCall.kind

namespace Search

/-- One call of a primitive. -/
def once (called kind : BusCall.Kind) : Nat := if called = kind then 1 else 0

/-- The most calls of each primitive at one position. -/
def positionCost : BusCall.Kind → Nat
  | .readTriplet => 1
  | .readBit => 2
  | .writeBit => 1
  | .reset | .writeByte | .readByte => 0

/-- The most calls of each primitive in one pass, which has at most 64 positions. -/
def passCost : BusCall.Kind → Nat
  | .reset => 1
  | .writeByte => 1
  | .readByte => 0
  | .readTriplet => 64
  | .readBit => 128
  | .writeBit => 64

/-! ### Actions on a line with notes -/

/-- An action on a state with notes has the outcome of another one on the state, and notes each
primitive at most so often. -/
def Spends (cost : BusCall.Kind → Nat) (place : σ → List BusCall.Kind → τ)
    (plain : Action σ ε α) (noted : Action τ ε α) : Prop :=
  ∀ state notes, ∃ made : List BusCall.Kind, (∀ kind, made.count kind ≤ cost kind) ∧
    noted.perform (place state notes) =
      ((plain.perform state).1, place (plain.perform state).2 (made ++ notes))

/-- The notes of a line next to a search. -/
def beside (state : Search × σ) (notes : List BusCall.Kind) : Search × σ × List BusCall.Kind :=
  (state.1, (state.2, notes))

variable {cost first : BusCall.Kind → Nat} {place : σ → List BusCall.Kind → τ}
  {master : Master σ ε}

/-- An action that calls no primitive. -/
theorem spends_silent {plain : Action σ ε α} {noted : Action τ ε α}
    (silent : ∀ state notes, noted.perform (place state notes) =
      ((plain.perform state).1, place (plain.perform state).2 notes)) :
    Spends cost place plain noted :=
  fun state notes => ⟨[], fun _ => Nat.zero_le _, silent state notes⟩

theorem spends_pure (value : α) :
    Spends cost place (pure value : Action σ ε α) (pure value) :=
  spends_silent fun _ _ => rfl

theorem spends_fail (error : ε) :
    Spends cost place (Action.fail error : Action σ ε α) (Action.fail error) :=
  spends_silent fun _ _ => rfl

theorem spends_bind (second : BusCall.Kind → Nat) {plain : Action σ ε α} {noted : Action τ ε α}
    {plainNext : α → Action σ ε γ} {notedNext : α → Action τ ε γ}
    (here : Spends first place plain noted)
    (later : ∀ value, Spends second place (plainNext value) (notedNext value))
    (enough : ∀ kind, first kind + second kind ≤ cost kind) :
    Spends cost place (plain >>= plainNext) (noted >>= notedNext) := by
  intro state notes
  obtain ⟨made, few, performed⟩ := here state notes
  rw [Action.perform_bind, Action.perform_bind, performed]
  generalize plain.perform state = result
  obtain ⟨error | value, reached⟩ := result
  · exact ⟨made, fun kind => by have := few kind; have := enough kind; omega, rfl⟩
  · obtain ⟨more, fewMore, performedMore⟩ := later value reached (made ++ notes)
    refine ⟨more ++ made, fun kind => ?_, by rw [List.append_assoc]; exact performedMore⟩
    rw [List.count_append]
    have := few kind
    have := fewMore kind
    have := enough kind
    omega

theorem spends_attempt {plain : Action σ ε α} {noted : Action τ ε α}
    (here : Spends cost place plain noted) :
    Spends cost place (Action.attempt plain : Action σ ε' (Except ε α)) (Action.attempt noted) := by
  intro state notes
  obtain ⟨made, few, performed⟩ := here state notes
  refine ⟨made, few, ?_⟩
  rw [Action.perform_attempt, Action.perform_attempt, performed]

/-- An action that looks at the search first. -/
theorem spends_current_bind {plainNext : Search × σ → Action (Search × σ) ε α}
    {notedNext : Search × σ × List BusCall.Kind → Action (Search × σ × List BusCall.Kind) ε α}
    (later : ∀ state notes, Spends cost beside (plainNext state) (notedNext (beside state notes))) :
    Spends cost beside (Action.current >>= plainNext) (Action.current >>= notedNext) :=
  fun state notes => later state notes state notes

/-- A change of the search. -/
theorem spends_update (change : Search → Search) :
    Spends (fun _ => 0) beside
      (Action.update fun (search, line) => (change search, line) : Action (Search × σ) ε Unit)
      (Action.update fun (search, line) => (change search, line)) :=
  spends_silent fun _ _ => rfl

/-- An action on the line of a search. -/
theorem spends_onSecond {plain : Action σ ε α} {noted : Action (σ × List BusCall.Kind) ε α}
    (here : Spends cost Prod.mk plain noted) :
    Spends cost beside (Action.onSecond plain) (Action.onSecond noted) := by
  rintro ⟨search, line⟩ notes
  obtain ⟨made, few, performed⟩ := here line notes
  refine ⟨made, few, ?_⟩
  show (Action.onSecond noted).perform (search, (line, notes)) = _
  rw [Action.perform_onSecond, Action.perform_onSecond, performed]
  rfl

/-- A call of a primitive. -/
theorem spends_call (action : Action σ ε α) (kind : BusCall.Kind) :
    Spends (once kind) Prod.mk action (action.noted fun _ => kind) := by
  refine fun state notes => ⟨[kind], fun other => ?_, rfl⟩
  rw [List.count_singleton, once]
  simp only [beq_iff_eq, Nat.le_refl]

/-! ### A pass -/

theorem reset_spends :
    Spends (once .reset) Prod.mk master.strict.reset master.counted.strict.reset :=
  spends_bind (fun _ => 0) (spends_call master.reset .reset)
    (fun _ => spends_silent fun _ _ => rfl) fun _ => Nat.le_refl _

/-- The slots of one position. -/
theorem slots_spends (direction : Bool) :
    Spends positionCost Prod.mk (slots master direction) (slots master.counted direction) := by
  refine spends_bind (fun kind => once .readBit kind + (once .readBit kind + once .writeBit kind))
    (spends_attempt (spends_call (master.readTriplet direction) .readTriplet))
    (fun answer => ?_) fun kind => by cases kind <;> decide
  split
  · exact spends_pure _
  · refine spends_bind (fun kind => once .readBit kind + once .writeBit kind)
      (spends_call master.readBit .readBit) (fun id => ?_) fun _ => Nat.le_refl _
    refine spends_bind (once .writeBit)
      (spends_call master.readBit .readBit) (fun complement => ?_) fun _ => Nat.le_refl _
    dsimp only
    split
    · exact spends_pure _
    · exact spends_bind (fun _ => 0) (spends_call (master.writeBit _) .writeBit)
        (fun _ => spends_pure _) fun _ => Nat.le_refl _
  · exact spends_fail _

/-- **The positions of a pass.** -/
theorem walk_spends (remaining lastZero : Nat) :
    Spends (fun kind => remaining * positionCost kind) beside (walk master remaining lastZero)
      (walk master.counted remaining lastZero) := by
  induction remaining generalizing lastZero with
  | zero => exact spends_pure _
  | succ left ih =>
    refine spends_current_bind fun state notes => ?_
    refine spends_bind (fun kind => left * positionCost kind)
      (spends_onSecond (slots_spends _)) (fun triplet => ?_)
      fun kind => Nat.le_of_eq (by rw [Nat.succ_mul, Nat.add_comm])
    split
    · exact spends_pure _
    · exact spends_bind (fun kind => left * positionCost kind)
        (spends_update fun search => search.follow _ triplet.taken) (fun _ => ih _)
        fun kind => Nat.le_of_eq (Nat.zero_add _)

theorem stop_spends :
    Spends cost beside (stop : Action (Search × σ) (BusError ε) (Option Address)) stop :=
  spends_silent fun _ _ => rfl

/-- **A pass keeps to its budget.** -/
theorem next_spends (master : Master σ ε) :
    Spends passCost beside (next master) (next master.counted) := by
  refine spends_current_bind fun state notes => ?_
  dsimp only [beside]
  split
  · exact spends_pure _
  · refine spends_bind (fun kind => once .writeByte kind + 64 * positionCost kind)
      (spends_attempt (spends_onSecond reset_spends)) (fun status => ?_)
      fun kind => by cases kind <;> decide
    split
    · refine spends_current_bind fun state notes => ?_
      refine spends_bind (fun kind => 64 * positionCost kind)
        (spends_onSecond (spends_call _ .writeByte)) (fun _ => ?_) fun _ => Nat.le_refl _
      refine spends_bind (fun _ => 0) (walk_spends 64 0) (fun last => ?_) fun _ => Nat.le_refl _
      cases last with
      | none => exact stop_spends
      | some lastZero => exact spends_silent fun _ _ => rfl
    · exact stop_spends
    · exact spends_fail _

/-! ### Any line -/

/-- What holds of a pass, whatever the line answers. -/
structure Withstands (master : Master σ ε) (search : Search) (line : σ) : Prop where
  /-- It finds only codes that are not zero, fit their check bytes and are looked for. -/
  genuine : ∀ code after, (next master).perform (search, line) = (.ok (some code), after) →
    Genuine search.family code
  /-- It calls each primitive only so often. -/
  sparing : ∃ made, (∀ kind, made.count kind ≤ passCost kind) ∧
    (next master.counted).perform (search, (line, [])) =
      (((next master).perform (search, line)).1,
        beside ((next master).perform (search, line)).2 made)
  /-- On the bytes of its code, its loop does the same and does not look outside them. -/
  inside : (Cursor.walk master search.lastDiscrepancy .start 0).perform (search.rom.bytes, line) =
      Cursor.onBytes ((walk master 64 0).perform (search, line)) ∧
    ∀ after, (Cursor.walk master search.lastDiscrepancy .start 0).perform
      (search.rom.bytes, line) ≠ (.error none, after)
  /-- Once it has told that no code is left, so do all later ones, without a call. -/
  final : ∀ after, (next master).perform (search, line) = (.ok none, after) → ∀ count notes,
    calls master.counted count (beside after notes) =
      (List.replicate count (.ok none), beside after notes)

/-- **A pass withstands any line.** -/
theorem next_withstands (master : Master σ ε) (search : Search) (line : σ) :
    Withstands master search line := by
  have here : Restricted search.family (search, line) := rfl
  refine ⟨fun code after found => ?_, ?_, ⟨Cursor.walk_start master search line,
    Cursor.walk_inside master search line⟩, fun after none => ?_⟩
  · exact ((next_genuine search.family master).of_perform here found).2 code rfl
  · obtain ⟨made, few, performed⟩ := next_spends master (search, line) []
    rw [List.append_nil] at performed
    exact ⟨made, few, performed⟩
  · have done := (next_ends master).of_perform trivial none rfl
    exact fun count notes => calls_finished master.counted done count _

end Search

namespace Channel

variable {master : Master (β × ω) ε}

/-- What a search leaves on a channel, whatever the line answers. -/
structure Withstood (master : Master (β × ω) ε) (family : Option FamilyCode)
    (before after : Channel β × ω) : Prop where
  /-- The list has no code twice. -/
  distinct : after.1.found.Nodup
  /-- Its codes are not zero, fit their check bytes and are looked for. -/
  genuine : ∀ code ∈ after.1.found, Search.Genuine family code
  /-- It has the codes of at most 128 passes, which are all that was done on the line. -/
  passes : ∃ count ≤ 128,
    let made := Search.calls master count (Search.start .normal family, (before.1.line, before.2))
    after.1.found = made.1.foldl Search.gather [] ∧ (after.1.line, after.2) = made.2.2

/-- **Discovery withstands any line**, in each of its passes and as a whole. -/
theorem discover_withstands (master : Master (β × ω) ε) :
    (∀ search line, Search.Withstands master search line) ∧
      ∀ family before, Withstood master family before
        ((discover master family).perform before).2 := by
  refine ⟨Search.next_withstands master, fun family before => ?_⟩
  obtain ⟨channel, world⟩ := before
  have start : (Search.start .normal family, (channel.line, world)).1.family = family :=
    Search.start_family .normal family
  have listed := Search.passes_genuine master Search.maxPasses start .nil
    fun _ member => absurd member List.not_mem_nil
  obtain ⟨count, few, made⟩ := Search.passes_calls master Search.maxPasses
    (Search.start .normal family, (channel.line, world)) []
  obtain ⟨found, line⟩ := Prod.mk.inj made
  exact ⟨listed.1, listed.2, count, few, found, line⟩

end Channel

end WireBridge
