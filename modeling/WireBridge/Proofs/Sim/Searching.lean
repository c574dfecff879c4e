/-
**Search slots of a simulated line.**

* `Sim.Drives master line`: a bus master that does to a simulated line, which it may keep next to
  other things, what its primitives say;
* `Sim.Drives.wiredAnd`: through such a master the line shows the wired-and of the codes that take
  part;
* `Sim.Drives.next_perform`, `Sim.Drives.next_empty`: one pass over a line. It changes no device and
  never counts more slots of a position than can be counted.
-/

import WireBridge.Proofs.Bus.Descent
import WireBridge.Sim.Line

namespace WireBridge.Sim

variable {σ τ ε : Type}

/-- A bus master that drives a simulated line. -/
structure Drives (master : Master σ ε) (line : σ → Line) : Prop where
  reset : ∀ state, ∃ reached,
    master.reset.perform state = (.ok (line state).reset.1, reached) ∧
      line reached = (line state).reset.2
  writeByte : ∀ byte state, ∃ reached,
    (master.writeByte byte).perform state = (.ok (), reached) ∧
      line reached = (line state).writeByte byte
  readByte : ∀ state, ∃ reached,
    master.readByte.perform state = (.ok (line state).readByte.1, reached) ∧
      line reached = (line state).readByte.2
  writeBit : ∀ value state, ∃ reached,
    (master.writeBit value).perform state = (.ok (), reached) ∧
      line reached = (line state).writeBit value
  readBit : ∀ state, ∃ reached,
    master.readBit.perform state = (.ok (line state).readBit.1, reached) ∧
      line reached = (line state).readBit.2
  readTriplet : ∀ direction state, ∃ reached,
    (master.readTriplet direction).perform state =
        (.ok ((line state).readTriplet direction).1, reached) ∧
      line reached = ((line state).readTriplet direction).2

theorem master_drives : Drives (master : Master Line ε) id :=
  ⟨fun _ => ⟨_, rfl, rfl⟩, fun _ _ => ⟨_, rfl, rfl⟩, fun _ => ⟨_, rfl, rfl⟩,
    fun _ _ => ⟨_, rfl, rfl⟩, fun _ => ⟨_, rfl, rfl⟩, fun _ _ => ⟨_, rfl, rfl⟩⟩

/-- A simulated line next to something else. -/
theorem beside_drives : Drives (master.beside : Master (Line × τ) ε) Prod.fst :=
  ⟨fun _ => ⟨_, rfl, rfl⟩, fun _ _ => ⟨_, rfl, rfl⟩, fun _ => ⟨_, rfl, rfl⟩,
    fun _ _ => ⟨_, rfl, rfl⟩, fun _ => ⟨_, rfl, rfl⟩, fun _ _ => ⟨_, rfl, rfl⟩⟩

namespace Line

/-! ### Who takes part -/

/-- The codes of the attached devices. -/
def codes (line : Line) : List Address := line.devices.map Device.address

/-- The codes of the devices that take part. -/
def taking (line : Line) : List Address :=
  line.selected.filterMap fun place => (line.devices[place]?).map Device.address

theorem anyBit_eq (line : Line) (position : Nat) (value : Bool) :
    line.anyBit position value = line.taking.any fun code => code.bit position == value := by
  unfold anyBit taking
  induction line.selected with
  | nil => rfl
  | cons place rest ih =>
    rw [List.any_cons, List.filterMap_cons, ih]
    cases line.devices[place]? <;> rfl

/-- At the start of a search everyone takes part. -/
theorem taking_everyone (devices : List Device) :
    ((List.range devices.length).filterMap fun place => (devices[place]?).map Device.address) =
      devices.map Device.address := by
  induction devices with
  | nil => rfl
  | cons device rest ih =>
    rw [List.length_cons, List.range_succ_eq_map, List.filterMap_cons, List.filterMap_map,
      List.map_cons, ← ih]
    rfl

/-- A written bit leaves the codes that have it. -/
theorem taking_filter (devices : List Device) (selected : List Nat) (position : Nat)
    (value : Bool) :
    ((selected.filter fun place =>
        (devices[place]?).any fun device => device.address.bit position == value).filterMap
          fun place => (devices[place]?).map Device.address) =
      Search.goOn (selected.filterMap fun place => (devices[place]?).map Device.address)
        position value := by
  unfold Search.goOn
  induction selected with
  | nil => rfl
  | cons place rest ih =>
    cases found : devices[place]? with
    | none => simp [found, ih]
    | some device =>
      by_cases same : device.address.bit position = value <;> simp [found, same, ih]

/-! ### The slots of a position -/

/-- A line that faces a position of a search, or has come to its end. -/
structure Facing (devices : List Device) (overrun : Bool) (position : Nat) (codes : List Address)
    (line : Line) : Prop where
  devices : line.devices = devices
  overrun : line.overrun = overrun
  phase : line.phase = if position < 64 then .searching position 0 else .listening
  taking : line.taking = codes

/-- The first slot of a position shows the bits. -/
theorem readBit_first (line : Line) {position : Nat} (phase : line.phase = .searching position 0) :
    line.readBit = ((Search.shown line.taking position true).id,
      { line with phase := .searching position 1 }) := by
  have id : (!line.anyBit position false) = (Search.shown line.taking position true).id := by
    rw [anyBit_eq, List.not_any_eq_all_not]
    simp [Search.shown]
  have counted : (line.overrun || decide (255 ≤ 0)) = line.overrun := Bool.or_false _
  simp only [readBit, phase, if_true, id, counted, Nat.zero_add]

/-- The second slot of a position shows the complements. -/
theorem readBit_second (line : Line) {position : Nat} (phase : line.phase = .searching position 1) :
    line.readBit = ((Search.shown line.taking position true).complement,
      { line with phase := .searching position 2 }) := by
  have complement : (!line.anyBit position true) =
      (Search.shown line.taking position true).complement := by
    rw [anyBit_eq, List.not_any_eq_all_not]
    simp [Search.shown]
  have counted : (line.overrun || decide (255 ≤ 1)) = line.overrun := Bool.or_false _
  simp only [readBit, phase, Nat.one_ne_zero, if_false, complement, counted, Nat.reduceAdd]

/-- A written bit leaves the devices that have it and turns to the next position. -/
theorem facing_writeBit (line : Line) {position slots : Nat} (inside : position < 64)
    (phase : line.phase = .searching position slots) (value : Bool) :
    Facing line.devices line.overrun (position + 1) (Search.goOn line.taking position value)
      (line.writeBit value) := by
  simp only [writeBit, phase]
  refine ⟨rfl, rfl, ?_, taking_filter line.devices line.selected position value⟩
  by_cases last : position = 63
  · simp [last]
  · have more : position + 1 < 64 := by omega
    simp [last, more]

/-- **A position of a search.** If someone takes part, the slots show the wired-and of their bits,
and those with the bit that is written go on. -/
theorem facing_readTriplet {devices : List Device} {overrun : Bool} {position : Nat}
    {codes : List Address} {line : Line} (inside : position < 64) (some : codes ≠ [])
    (there : Facing devices overrun position codes line) (direction : Bool) :
    (line.readTriplet direction).1 = Search.shown codes position direction ∧
      Facing devices overrun (position + 1)
        (Search.goOn codes position (Search.shown codes position direction).taken)
        (line.readTriplet direction).2 := by
  obtain ⟨rfl, rfl, phase, rfl⟩ := there
  rw [if_pos inside] at phase
  have first := readBit_first line phase
  have second := readBit_second { line with phase := .searching position 1 } rfl
  have answered := Search.shown_answered some position true
  have again : ({ line with phase := .searching position 1 } : Line).taking = line.taking := rfl
  rw [again] at second
  have unfolded : line.readTriplet direction =
      (Search.shown line.taking position direction,
        ({ line with phase := Phase.searching position 2 } : Line).writeBit
          (Search.shown line.taking position direction).taken) := by
    simp only [readTriplet, phase, first, second, answered, Bool.false_eq_true, if_false]
    rfl
  rw [unfolded]
  exact ⟨rfl, facing_writeBit { line with phase := .searching position 2 } inside rfl _⟩

/-- The start of a search. -/
theorem facing_search (line : Line) :
    Facing line.devices line.overrun 0 line.codes
      (line.reset.2.writeByte RomCommand.search.code) :=
  ⟨rfl, rfl, rfl, taking_everyone line.devices⟩

end Line

/-! ### Passes -/

variable {master : Master σ ε} {line : σ → Line}

/-- **A simulated line is wired-and.** -/
theorem Drives.wiredAnd (drives : Drives master line) (devices : List Device) (overrun : Bool) :
    Search.WiredAnd master fun position codes state =>
      Line.Facing devices overrun position codes (line state) := by
  intro position codes state direction inside some there
  obtain ⟨reached, tripletEq, lineEq⟩ := drives.readTriplet direction state
  obtain ⟨shownEq, further⟩ := Line.facing_readTriplet inside some there direction
  rw [← lineEq] at further
  refine ⟨reached, ?_, further⟩
  unfold Search.slots
  simp only [Action.perform_bind, Action.perform_attempt, tripletEq, shownEq, Action.perform_pure]

/-- A reset of a line with a device is answered. -/
theorem Line.reset_answered {here : Line} (some : here.devices ≠ []) :
    here.reset.1 = ⟨true, false, none, none⟩ := by
  have occupied : here.devices.isEmpty = false := by simpa using some
  rw [Line.reset, occupied]
  rfl

/-- A reset of an empty line is not. -/
theorem Line.reset_empty {here : Line} (none : here.devices = []) :
    here.reset.1 = ⟨false, false, .none, .none⟩ := by
  rw [Line.reset, none]
  rfl

/-- **A pass over a line with devices** ends at the code that was chosen. -/
theorem Drives.next_perform (drives : Drives master line) {search : Search} {state : σ}
    (normal : search.kind = .normal) (going : search.finished = false)
    (some : (line state).devices ≠ []) :
    ∃ target last reached,
      Search.Chosen search (line state).codes target ∧
      Search.LastZero (line state).codes target 0 last ∧
      (Search.next master).perform (search, state) =
        ((({ search with rom := target } : Search).conclude last).1,
          ((({ search with rom := target } : Search).conclude (ε := ε) last).2, reached)) ∧
      (line reached).devices = (line state).devices ∧
      (line reached).overrun = (line state).overrun := by
  obtain ⟨afterReset, resetEq, resetLine⟩ := drives.reset state
  obtain ⟨afterCommand, commandEq, commandLine⟩ :=
    drives.writeByte RomCommand.search.code afterReset
  have there : Line.Facing (line state).devices (line state).overrun 0 (line state).codes
      (line afterCommand) := by
    rw [commandLine, resetLine]
    exact (line state).facing_search
  have someCodes : (line state).codes ≠ [] := by simpa [Line.codes] using some
  obtain ⟨target, rom, last, reached, walkEq, chosen, zero, -, bits, left, thereEnd⟩ :=
    Search.walk_perform (drives.wiredAnd _ _) 64 search 0 rfl someCodes there
      fun _ _ _ _ _ below => absurd below (Nat.not_lt_zero _)
  obtain rfl : rom = target :=
    Address.eq_of_bit fun position inside => bits position (Nat.zero_le _) inside
  refine ⟨rom, last, reached, chosen, zero, ?_, thereEnd.devices, thereEnd.overrun⟩
  rw [Search.next_perform master going, resetEq, Line.reset_answered some]
  simp only [Bool.not_true, Bool.false_eq_true, if_false, Search.pass, Action.perform_bind,
    Action.perform_current, Action.perform_onSecond, normal, SearchKind.command, commandEq, walkEq,
    Action.perform_onFirst, Action.perform_ofStep]

/-- A pass over an empty line ends the search. -/
theorem Drives.next_empty (drives : Drives master line) {search : Search} {state : σ}
    (going : search.finished = false) (none : (line state).devices = []) :
    ∃ reached,
      (Search.next master).perform (search, state) = (.ok .none, (search.finish, reached)) ∧
      (line reached).devices = (line state).devices ∧
      (line reached).overrun = (line state).overrun := by
  obtain ⟨reached, resetEq, resetLine⟩ := drives.reset state
  refine ⟨reached, ?_, by rw [resetLine]; rfl, by rw [resetLine]; rfl⟩
  rw [Search.next_perform master going, resetEq, Line.reset_empty none]
  rfl

end WireBridge.Sim
