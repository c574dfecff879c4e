/-
**Any calls of a simulated line.**

Devices are attached, detached and changed between any two primitives, and the primitives come in
any order and number, also where no driver would use them.

* `Sim.Call`, `Sim.runs`: calls of a line one after the other;
* `Sim.Line.Sound`: no two devices have the same code, the selected places exist, and the protocol
  phase is within its bounds. This holds of all lines that calls lead to (`Sim.sound_runs`), though
  what is attached or detached in the middle of a transaction moves the devices to other places;
* `Sim.Call.overruns`: a call reads more slots of a search position than are counted. The line
  records that there was such a call (`Sim.overrun_runs`), and there is none if at most 255 slots
  are read in a row (`Sim.overrun_of_streaks`).
-/

import Mathlib.Data.List.Count
import Mathlib.Data.List.Induction
import Mathlib.Data.List.Nodup
import WireBridge.Proofs.Sim.Population

namespace WireBridge.Sim

/-! ### Calls -/

/-- What is changed on a device from outside. -/
inductive Setting where
  | temperature (celsius : Float32)
  | voltages (vad vdd : Float32)
  | scratchpads (corrupt : Bool)

/-- The device after a change from outside. -/
def Setting.apply (device : Device) : Setting → Device
  | .temperature celsius => device.withTemperature celsius
  | .voltages vad vdd => device.withVoltages vad vdd
  | .scratchpads corrupt => { device with corrupt := corrupt }

theorem Setting.address_apply (device : Device) (setting : Setting) :
    (setting.apply device).address = device.address := by
  cases setting with
  | temperature celsius => cases h : device.model <;> simp [apply, Device.withTemperature, h]
  | voltages vad vdd => cases h : device.model <;> simp [apply, Device.withVoltages, h]
  | scratchpads corrupt => rfl

/-- What a line can be called for. Questions about its devices and counters change nothing and use
no places or indices. -/
inductive Call where
  | attach (address : Address) (model : Model)
  | remove (address : Address)
  | set (address : Address) (setting : Setting)
  | reset
  | writeByte (byte : UInt8)
  | readByte
  | writeBit (value : Bool)
  | readBit
  | readTriplet (direction : Bool)

/-- The line after a call. -/
def Call.run (line : Line) : Call → Line
  | .attach address model => line.attach address model
  | .remove address => line.remove address
  | .set address setting => line.change address setting.apply
  | .reset => line.reset.2
  | .writeByte byte => line.writeByte byte
  | .readByte => line.readByte.2
  | .writeBit value => line.writeBit value
  | .readBit => line.readBit.2
  | .readTriplet direction => (line.readTriplet direction).2

/-- The line after some calls. -/
def runs (line : Line) (calls : List Call) : Line := calls.foldl Call.run line

theorem runs_concat (line : Line) (calls : List Call) (call : Call) :
    runs line (calls ++ [call]) = call.run (runs line calls) := by
  unfold runs
  rw [List.foldl_append]
  rfl

/-! ### Written bytes -/

/-- The slots that were read of a search position. -/
def Phase.slots : Phase → Nat
  | .searching _ slots => slots
  | _ => 0

/-- The bytes received of a ROM code and the position of a search are below the length of a code. -/
def Phase.Inside : Phase → Prop
  | .matching received => received.length < 8
  | .searching position _ => position < 64
  | _ => True

/-- A phase to which a byte leads. -/
structure Phase.Fresh (phase : Phase) : Prop where
  inside : phase.Inside
  unread : phase.slots = 0

namespace Line

/-- What a written byte does to a line, as far as places and slots are concerned. -/
structure Takes (before after : Line) : Prop where
  evolves : Evolves before after
  selected : ∀ place ∈ after.selected, place ∈ before.selected ∨ place < before.devices.length
  phase : after.phase = before.phase ∨ after.phase.Fresh
  overrun : after.overrun = before.overrun

/-- The same places are selected. -/
theorem Takes.of_selected {before after : Line} (evolves : Evolves before after)
    (same : after.selected = before.selected)
    (phase : after.phase = before.phase ∨ after.phase.Fresh)
    (overrun : after.overrun = before.overrun) : Takes before after :=
  ⟨evolves, fun _ member => .inl (same ▸ member), phase, overrun⟩

theorem Takes.refl (line : Line) : Takes line line :=
  .of_selected (.of_devices rfl) rfl (.inl rfl) rfl

/-- A command that ends the protocol, or goes on from there. -/
theorem Takes.of_idle {line after : Line} {broadcasts : Nat}
    (takes : Takes { line with phase := .idle, broadcasts := broadcasts } after) :
    Takes line after :=
  ⟨takes.evolves, takes.selected,
    .inr (takes.phase.elim (fun same => same ▸ ⟨trivial, rfl⟩) id), takes.overrun⟩

theorem takes_onRomCommand (line : Line) (byte : UInt8) : Takes line (line.onRomCommand byte) := by
  have everyone : ∀ place ∈ line.everyone,
      place ∈ line.selected ∨ place < line.devices.length :=
    fun _ member => .inr (List.mem_range.mp member)
  have noBytes : (Phase.matching []).Fresh := ⟨Nat.zero_lt_succ 7, rfl⟩
  have first : (Phase.searching 0 0).Fresh := ⟨Nat.zero_lt_succ 63, rfl⟩
  unfold onRomCommand
  dsimp only
  split
  · exact .of_selected (.of_devices rfl) rfl (.inr noBytes) rfl
  split
  · exact ⟨.of_devices rfl, everyone, .inr ⟨trivial, rfl⟩, rfl⟩
  split
  · exact ⟨.of_devices rfl, everyone, .inr first, rfl⟩
  split
  · exact .of_selected (.of_devices rfl) rfl (.inr first) rfl
  · exact .of_selected (.of_devices rfl) rfl (.inr ⟨trivial, rfl⟩) rfl

theorem takes_onCode (line : Line) (received : List UInt8) (byte : UInt8) :
    Takes line (line.onCode received byte) := by
  unfold onCode
  dsimp only
  split
  · next short => exact .of_selected (.of_devices rfl) rfl (.inr ⟨short, rfl⟩) rfl
  · refine ⟨.of_devices rfl, fun place member => .inr ?_, .inr ⟨trivial, rfl⟩, rfl⟩
    dsimp only at member
    split at member
    · next there => exact List.mem_singleton.mp member ▸ there
    · exact absurd member List.not_mem_nil

theorem takes_onMemoryCommand (line : Line) (command : FunctionCommand) :
    Takes line (line.onMemoryCommand command) := by
  unfold onMemoryCommand
  split
  · exact .refl line
  split
  · exact .of_selected (.of_devices rfl) rfl (.inr ⟨trivial, rfl⟩) rfl
  · exact .of_selected (.of_devices rfl) rfl (.inl rfl) rfl
  · exact .of_selected (.of_devices rfl) rfl (.inr ⟨trivial, rfl⟩) rfl
  · exact .refl line

theorem takes_changeSelected (line : Line) {change : Device → Device}
    (later : ∀ device, Device.Later device (change device)) :
    Takes line (line.changeSelected change) :=
  .of_selected (line.evolves_changeSelected later) rfl (.inl rfl) rfl

theorem takes_onCommand (line : Line) (byte : UInt8) : Takes line (line.onCommand byte) := by
  unfold onCommand
  dsimp only
  split
  · exact .of_idle (takes_changeSelected { line with phase := .idle, broadcasts := _ }
      Device.later_convertTemperature)
  · exact .of_idle (takes_changeSelected { line with phase := .idle } Device.later_convertVoltage)
  · exact .of_idle (takes_onMemoryCommand { line with phase := .idle } _)
  · exact .of_idle (.refl { line with phase := .idle })

theorem takes_onPage (line : Line) (command : FunctionCommand) (page : UInt8) :
    Takes line (line.onPage command page) := by
  have idle : Takes line { line with phase := .idle } :=
    .of_idle (.refl { line with phase := .idle })
  unfold onPage
  dsimp only
  split
  · exact idle
  split
  · exact idle
  split
  · exact .of_selected (.of_devices rfl) rfl (.inr ⟨trivial, rfl⟩) rfl
  · exact .of_selected (.of_devices rfl) rfl (.inr ⟨trivial, rfl⟩) rfl
  · exact idle

theorem takes_onRegister (line : Line) (offset : Nat) (byte : UInt8) :
    Takes line (line.onRegister offset byte) := by
  refine .of_selected (line.evolves_onRegister offset byte) ?selected (.inr ?phase) ?overrun
  case phase =>
    unfold onRegister storeAt
    dsimp only
    repeat' split
    all_goals exact ⟨trivial, rfl⟩
  all_goals
    unfold onRegister storeAt
    dsimp only
    repeat' split
    all_goals rfl

/-- **Whatever is written**, only places of devices get selected. -/
theorem takes_writeByte (line : Line) (byte : UInt8) : Takes line (line.writeByte byte) := by
  unfold writeByte
  split
  · exact line.takes_onRomCommand byte
  · exact line.takes_onCode _ byte
  · exact line.takes_onCommand byte
  · exact line.takes_onPage _ byte
  · exact line.takes_onRegister _ byte
  · exact .refl line
  · exact .refl line

theorem Takes.inside {before after : Line} (takes : Takes before after)
    (inside : before.phase.Inside) : after.phase.Inside :=
  takes.phase.elim (fun same => same ▸ inside) Phase.Fresh.inside

theorem Takes.slots {before after : Line} (takes : Takes before after) :
    after.phase.slots ≤ before.phase.slots :=
  takes.phase.elim (fun same => same ▸ Nat.le_refl _) fun fresh => fresh.unread ▸ Nat.zero_le _

/-! ### Sound lines -/

/-- All places of a line are those of devices, and its protocol phase is within its bounds. -/
structure Sound (line : Line) : Prop where
  distinct : line.codes.Nodup
  places : ∀ place ∈ line.selected, place < line.devices.length
  inside : line.phase.Inside

theorem sound_empty : Sound empty where
  distinct := List.nodup_nil
  places _ member := absurd member List.not_mem_nil
  inside := trivial

theorem Sound.exists_device {line : Line} (sound : line.Sound) {place : Nat}
    (member : place ∈ line.selected) : ∃ device, line.devices[place]? = some device :=
  ⟨_, List.getElem?_eq_getElem (sound.places place member)⟩

theorem Sound.of_evolves {before after : Line} (sound : before.Sound)
    (evolves : Evolves before after)
    (places : ∀ place ∈ after.selected, place ∈ before.selected ∨ place < before.devices.length)
    (inside : after.phase.Inside) : after.Sound where
  distinct := by
    rw [codes_eq_map, evolves.population_eq, ← codes_eq_map]
    exact sound.distinct
  places place member := by
    rw [← List.Forall₂.length_eq evolves]
    exact (places place member).elim (sound.places place) id
  inside := inside

/-- The places stay good when a device is replaced: it leaves at most one place and gets one. -/
theorem length_le_attach {line : Line} (distinct : line.codes.Nodup) (address : Address)
    (model : Model) : line.devices.length ≤ (line.attach address model).devices.length := by
  have once : line.devices.countP (fun device => device.address == address) ≤ 1 := by
    have count := List.nodup_iff_count_le_one.mp distinct address
    unfold codes at count
    rwa [List.count, List.countP_map] at count
  have split := List.length_eq_countP_add_countP (fun device => device.address == address)
    (l := line.devices)
  have kept : (line.devices.filter (·.address ≠ address)).length =
      line.devices.countP (fun device => decide ¬(device.address == address) = true) := by
    rw [List.countP_eq_length_filter]
    simp
  unfold attach
  rw [List.length_append, kept, List.length_singleton]
  omega

theorem Sound.attach {line : Line} (sound : line.Sound) (address : Address) (model : Model) :
    (line.attach address model).Sound where
  distinct := by
    have others := (sound.distinct.sublist
      (List.filter_sublist.map Device.address : List.Sublist
        ((line.devices.filter (·.address ≠ address)).map Device.address) line.codes))
    unfold codes Line.attach
    rw [List.map_append]
    refine List.nodup_append.mpr
      ⟨others, List.pairwise_singleton .., fun code there other own => ?_⟩
    obtain ⟨device, kept, rfl⟩ := List.mem_map.mp there
    have different := of_decide_eq_true (List.mem_filter.mp kept).2
    exact (List.mem_singleton.mp own) ▸ different
  places place member :=
    Nat.lt_of_lt_of_le (sound.places place member)
      (length_le_attach sound.distinct address model)
  inside := sound.inside

theorem Sound.remove {line : Line} (sound : line.Sound) (address : Address) :
    (line.remove address).Sound where
  distinct := sound.distinct.sublist (List.filter_sublist.map Device.address)
  places _ member := absurd member List.not_mem_nil
  inside := trivial

theorem Sound.change {line : Line} (sound : line.Sound) (address : Address)
    {change : Device → Device} (keeps : ∀ device, (change device).address = device.address) :
    (line.change address change).Sound where
  distinct := by
    have same : (line.change address change).codes = line.codes :=
      map_address_modify line.devices _ keeps
    rw [same]
    exact sound.distinct
  places place member := by
    show place < (line.devices.modify _ change).length
    rw [List.length_modify]
    exact sound.places place member
  inside := sound.inside

theorem Sound.readByte {line : Line} (sound : line.Sound) : line.readByte.2.Sound := by
  unfold Line.readByte
  split
  · exact sound
  · exact sound.of_evolves (.of_devices rfl) (fun _ member => .inl member) sound.inside

theorem Sound.writeBit {line : Line} (sound : line.Sound) (value : Bool) :
    (line.writeBit value).Sound := by
  have inside := sound.inside
  unfold Line.writeBit
  split
  · next position slots phase =>
    rw [phase] at inside
    refine sound.of_evolves (.of_devices rfl)
      (fun place member => .inl (List.mem_filter.mp member).1) ?_
    dsimp only
    split
    · trivial
    · next middle =>
      show position + 1 < 64
      have below : position < 64 := inside
      omega
  · exact sound

theorem Sound.readBit {line : Line} (sound : line.Sound) : line.readBit.2.Sound := by
  have inside := sound.inside
  unfold Line.readBit
  split
  · next position slots phase =>
    rw [phase] at inside
    exact sound.of_evolves (.of_devices rfl) (fun place member => .inl member) inside
  · exact sound

theorem Sound.readTriplet {line : Line} (sound : line.Sound) (direction : Bool) :
    (line.readTriplet direction).2.Sound := by
  unfold Line.readTriplet
  split
  · dsimp only
    split
    · exact sound.readBit.readBit
    · exact sound.readBit.readBit.writeBit _
  · exact sound

/-- **Every call keeps a line sound**, also in the middle of a transaction. -/
theorem Sound.run {line : Line} (sound : line.Sound) (call : Call) : (call.run line).Sound := by
  cases call with
  | attach address model => exact sound.attach address model
  | remove address => exact sound.remove address
  | set address setting => exact sound.change address fun device => setting.address_apply device
  | reset =>
    exact sound.of_evolves (.of_devices rfl)
      (fun _ member => absurd member List.not_mem_nil) trivial
  | writeByte byte =>
    have takes := line.takes_writeByte byte
    exact sound.of_evolves takes.evolves takes.selected (takes.inside sound.inside)
  | readByte => exact sound.readByte
  | writeBit value => exact sound.writeBit value
  | readBit => exact sound.readBit
  | readTriplet direction => exact sound.readTriplet direction

end Line

/-- **Whatever a line is called for**, all places of selected devices exist. -/
theorem sound_runs {line : Line} (sound : line.Sound) (calls : List Call) :
    (runs line calls).Sound := by
  induction calls generalizing line with
  | nil => exact sound
  | cons call rest ih => exact ih (sound.run call)

/-! ### Counted slots -/

/-- Whether a call reads a slot of the search position that is not counted: 255 are. -/
def Call.overruns (line : Line) : Call → Bool
  | .readBit => 255 ≤ line.phase.slots
  | .readTriplet _ => 254 ≤ line.phase.slots
  | _ => false

namespace Line

theorem phase_readBit {line : Line} {position slots : Nat}
    (phase : line.phase = .searching position slots) :
    line.readBit.2.phase = .searching position (slots + 1) := by
  unfold readBit
  rw [phase]

theorem slots_readBit {line : Line} {position slots : Nat}
    (phase : line.phase = .searching position slots) :
    line.readBit.2.phase.slots = line.phase.slots + 1 := by
  rw [phase_readBit phase, phase]
  rfl

/-- Outside of a search no slots are counted. -/
theorem slots_outside {line : Line}
    (outside : ∀ position slots, line.phase = .searching position slots → False) :
    line.phase.slots = 0 := by
  unfold Phase.slots
  split
  · next position slots phase => exact (outside position slots phase).elim
  · rfl

theorem overrun_readBit (line : Line) :
    line.readBit.2.overrun = (line.overrun || decide (255 ≤ line.phase.slots)) := by
  unfold readBit
  split
  · next phase =>
    rw [phase]
    rfl
  · next outside =>
    rw [slots_outside outside]
    exact (Bool.or_false _).symm

theorem overrun_writeBit (line : Line) (value : Bool) :
    (line.writeBit value).overrun = line.overrun := by
  unfold writeBit
  split <;> rfl

theorem overrun_readTriplet (line : Line) (direction : Bool) :
    (line.readTriplet direction).2.overrun =
      (line.overrun || decide (254 ≤ line.phase.slots)) := by
  unfold readTriplet
  split
  · next position slots phase =>
    have both : line.readBit.2.readBit.2.overrun =
        (line.overrun || decide (254 ≤ line.phase.slots)) := by
      rw [overrun_readBit, slots_readBit phase, overrun_readBit, Bool.or_assoc, ← Bool.decide_or]
      exact congrArg (line.overrun || ·) (decide_eq_decide.mpr (by omega))
    dsimp only
    split
    · exact both
    · rw [overrun_writeBit]
      exact both
  · next outside =>
    rw [slots_outside outside]
    exact (Bool.or_false _).symm

end Line

/-- A line records a call that reads a slot that is not counted. -/
theorem Call.overrun_run (line : Line) (call : Call) :
    (call.run line).overrun = (line.overrun || call.overruns line) := by
  have quiet : line.overrun = (line.overrun || false) := (Bool.or_false _).symm
  cases call with
  | attach address model => exact quiet
  | remove address => exact quiet
  | set address setting => exact quiet
  | reset => exact quiet
  | writeByte byte => exact (line.takes_writeByte byte).overrun.trans quiet
  | readByte =>
    refine Eq.trans ?_ quiet
    show line.readByte.2.overrun = line.overrun
    unfold Line.readByte
    split <;> rfl
  | writeBit value => exact (line.overrun_writeBit value).trans quiet
  | readBit => exact line.overrun_readBit
  | readTriplet direction => exact line.overrun_readTriplet direction

/-- **A line records** whether there was a call that read a slot that is not counted. -/
theorem overrun_runs (line : Line) (calls : List Call) :
    (runs line calls).overrun = true ↔ line.overrun = true ∨
      ∃ earlier call, earlier ++ [call] <+: calls ∧ call.overruns (runs line earlier) = true := by
  induction calls using List.reverseRecOn with
  | nil =>
    refine ⟨.inl, fun either => either.elim id ?_⟩
    rintro ⟨earlier, call, within, _⟩
    exact absurd (List.prefix_nil.mp within) (List.concat_ne_nil call earlier)
  | append_singleton calls last ih =>
    rw [runs_concat, Call.overrun_run, Bool.or_eq_true, ih, or_assoc]
    refine or_congr_right ⟨?_, ?_⟩
    · rintro (⟨earlier, call, within, beyond⟩ | beyond)
      · exact ⟨earlier, call, within.trans (List.prefix_append _ _), beyond⟩
      · exact ⟨calls, last, List.prefix_rfl, beyond⟩
    · rintro ⟨earlier, call, within, beyond⟩
      rcases List.prefix_concat_iff.mp within with same | before
      · obtain ⟨rfl, single⟩ := List.append_inj' same rfl
        obtain rfl := List.head_eq_of_cons_eq single
        exact .inr beyond
      · exact .inl ⟨earlier, call, before, beyond⟩

/-! ### Slots in a row -/

/-- The slots that a call reads in a search. -/
def Call.slots : Call → Nat
  | .readBit => 1
  | .readTriplet _ => 2
  | _ => 0

/-- Whether a call leaves a search position, whatever the line shows there. -/
def Call.leaves : Call → Bool
  | .writeBit _ => true
  | .reset => true
  | .remove _ => true
  | _ => false

/-- The slots that were read since the last call that leaves a search position. -/
def streak (calls : List Call) : Nat :=
  calls.foldl (fun slots call => if call.leaves then 0 else slots + call.slots) 0

theorem streak_concat (calls : List Call) (call : Call) :
    streak (calls ++ [call]) = if call.leaves then 0 else streak calls + call.slots := by
  unfold streak
  rw [List.foldl_append]
  rfl

namespace Line

theorem slots_writeBit (line : Line) (value : Bool) : (line.writeBit value).phase.slots = 0 := by
  unfold writeBit
  split
  · dsimp only
    split <;> rfl
  · next outside => exact slots_outside outside

theorem slots_readBit_le (line : Line) :
    line.readBit.2.phase.slots ≤ line.phase.slots + 1 := by
  cases phase : line.phase with
  | searching position slots => exact Nat.le_of_eq (by rw [slots_readBit phase, phase])
  | _ =>
    simp only [readBit, phase]
    exact Nat.le_succ _

theorem slots_readTriplet_le (line : Line) (direction : Bool) :
    (line.readTriplet direction).2.phase.slots ≤ line.phase.slots + 2 := by
  have both : line.readBit.2.readBit.2.phase.slots ≤ line.phase.slots + 2 :=
    Nat.le_trans line.readBit.2.slots_readBit_le (Nat.succ_le_succ line.slots_readBit_le)
  unfold readTriplet
  split
  · dsimp only
    split
    · exact both
    · rw [slots_writeBit]
      exact Nat.zero_le _
  · exact Nat.le_add_right _ _

end Line

theorem Call.slots_run_le (line : Line) (call : Call) :
    (call.run line).phase.slots ≤
      if call.leaves then 0 else line.phase.slots + call.slots := by
  cases call with
  | attach address model => exact Nat.le_refl _
  | remove address => exact Nat.le_refl _
  | set address setting => exact Nat.le_refl _
  | reset => exact Nat.le_refl _
  | writeByte byte => exact (line.takes_writeByte byte).slots
  | readByte =>
    show line.readByte.2.phase.slots ≤ line.phase.slots
    unfold Line.readByte
    split <;> exact Nat.le_refl _
  | writeBit value => exact Nat.le_of_eq (line.slots_writeBit value)
  | readBit => exact line.slots_readBit_le
  | readTriplet direction => exact line.slots_readTriplet_le direction

/-- A line counts no more slots of a search position than were read in a row. -/
theorem slots_runs_le (calls : List Call) : (runs .empty calls).phase.slots ≤ streak calls := by
  induction calls using List.reverseRecOn with
  | nil => exact Nat.le_refl 0
  | append_singleton calls last ih =>
    have step := Call.slots_run_le (runs .empty calls) last
    rw [runs_concat, streak_concat]
    refine Nat.le_trans step ?_
    split
    · exact Nat.le_refl 0
    · exact Nat.add_le_add_right ih _

/-- **No slot is left uncounted** if at most 255 are read in a row. -/
theorem overrun_of_streaks {calls : List Call}
    (short : ∀ earlier, earlier <+: calls → streak earlier ≤ 255) :
    (runs .empty calls).overrun = false := by
  refine Bool.eq_false_iff.mpr fun beyond => ?_
  rcases (overrun_runs .empty calls).mp beyond with already | ⟨earlier, call, within, beyond⟩
  · exact Bool.false_ne_true already
  have row := short _ within
  have counted := slots_runs_le earlier
  rw [streak_concat] at row
  cases call with
  | readBit =>
    have last : 255 ≤ (runs .empty earlier).phase.slots := of_decide_eq_true beyond
    have fits : streak earlier + 1 ≤ 255 := row
    omega
  | readTriplet direction =>
    have last : 254 ≤ (runs .empty earlier).phase.slots := of_decide_eq_true beyond
    have fits : streak earlier + 2 ≤ 255 := row
    omega
  | _ => exact Bool.false_ne_true beyond

end WireBridge.Sim
