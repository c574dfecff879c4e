/-
**Setting up the channels isolates chips that fail.**

The chips of all channels are reached over one bus and one switch. Each channel in use is attempted
once, whatever comes of the others, and an attempt touches nothing but its own output of the switch
and its own chip.

* `Timing.port?_of_fit`: the port codes that are wanted, if all configured codes fit;
* `ChipBank.Attempt`, `ChipBank.attempts`: the attempts to build chips, one after the other, with
  what happened during each;
* `ChipBank.Visits`: what happens on the bus while one channel is used;
* `ChipBank.BringUp`: what setting up comes to, one case for each way out;
* `ChipBank.setUp_isolates`: **the channels that are set up** are those in use whose chips could be
  built.
-/

import WireBridge.Proofs.Chip.Encoding
import WireBridge.Proofs.Chip.Tracing
import WireBridge.Proofs.I2c.Selecting

namespace WireBridge

open I2c (PeerAddress Transfer)
open WireBridge.Action (Keeps Leads)

/-! ### The wanted port codes -/

namespace Timing

/-- All codes. -/
def codes (timing : Timing) : List UInt8 :=
  [timing.resetLow, timing.presenceDetect, timing.writeZeroLow, timing.writeZeroRecovery,
    timing.weakPullup]

/-- The codes with those of power-on for overdrive, in the order in which they are read. -/
def port (timing : Timing) : PortCodes :=
  ⟨#v[timing.resetLow, 6, timing.presenceDetect, 6, timing.writeZeroLow, 6,
    timing.writeZeroRecovery, timing.weakPullup]⟩

/-- **The port codes that are wanted** if all configured codes fit. -/
theorem port?_of_fit {timing : Timing} (fit : ∀ code ∈ timing.codes, code ≤ 15) :
    timing.port? = some timing.port := by
  have fits (code : UInt8) (member : code ∈ timing.codes) : ¬ PortCodes.maxCode < code :=
    UInt8.not_lt.mpr (fit code member)
  simp only [codes, List.mem_cons, List.not_mem_nil, or_false, forall_eq_or_imp, forall_eq] at fits
  simp [port?, PortCodes.set?, PortParameter.index?, fits, port]
  rfl

theorem fit_of_port? {timing : Timing} {wanted : PortCodes} (made : timing.port? = some wanted) :
    ∀ code ∈ timing.codes, code ≤ 15 := by
  have fits {port changed : PortCodes} {parameter : PortParameter} {code : UInt8}
      (replaced : port.set? parameter false code = some changed) : code ≤ 15 := by
    obtain ⟨_, _, small, _⟩ := PortCodes.set?_eq_some replaced
    exact small
  obtain ⟨_, first, made⟩ := Option.bind_eq_some_iff.mp made
  obtain ⟨_, second, made⟩ := Option.bind_eq_some_iff.mp made
  obtain ⟨_, third, made⟩ := Option.bind_eq_some_iff.mp made
  obtain ⟨_, fourth, fifth⟩ := Option.bind_eq_some_iff.mp made
  simp [codes, fits first, fits second, fits third, fits fourth, fits fifth]

end Timing

/-! ### What is kept while a chip is set up -/

/-- What nothing ends that is done with a chip after its first reset. -/
structure ChipLink.Spares {σ ε : Type} (link : ChipLink σ ε) (kept : σ → Prop) : Prop where
  read : Keeps kept (link.bus.read 0x18 1)
  writeRead : ∀ bytes count, Keeps kept (link.bus.writeRead 0x18 bytes count)
  adjust : ∀ controls, Keeps kept (link.bus.write 0x18 (0xc3 :: controls))
  pause : ∀ milliseconds line, kept line → kept (link.pause milliseconds line)

namespace Chip

variable {σ ε α : Type} {link : ChipLink σ ε} {start kept : σ → Prop} {port : PortCodes}

/-- The port codes of the driver, and what holds of the line. -/
def Wants (port : PortCodes) (holds : σ → Prop) (state : Chip × σ) : Prop :=
  state.1.port = port ∧ holds state.2

theorem leads_transfer_wants {action : Action σ ε α}
    (leads : Leads start action (fun _ => kept) kept) :
    Leads (Wants port start) (transfer action) (fun _ => Wants port kept) (Wants port kept) :=
  Action.leads_onSecond (fun chip : Chip => chip.port = port) (Action.leads_mapError leads)

section Spares

variable (spares : link.Spares kept)

include spares

theorem keeps_poll_wants (done : ChipStatus → Bool) (left : Nat) :
    Keeps (Wants port kept) (poll link done left) :=
  keeps_poll_of (leads_transfer_wants spares.read)
    (fun _ _ _ here => ⟨here.1, spares.pause _ _ here.2⟩) done left

theorem keeps_register_wants : Keeps (Wants port kept) (register link 0xb4 8) :=
  leads_transfer_wants (spares.writeRead _ 8)

theorem keeps_configure_wants (config : ChipConfig) :
    Keeps (Wants port kept) (configure link config) := by
  refine Action.leads_bind _ (leads_transfer_wants (spares.writeRead _ 1)) fun echo => ?_
  split
  · exact Action.leads_fail fun _ here => here
  · exact Action.leads_update fun _ here => here

theorem leads_setUp_wants
    (begins : Leads start (link.bus.write 0x18 [0xf0]) (fun _ => kept) kept)
    (settings : ChipSettings) :
    Leads (Wants port start) (setUp link settings) (fun _ => Wants port kept)
      (Wants port kept) := by
  have resets : Leads (Wants port start) (resetChip link) (fun _ => Wants port kept)
      (Wants port kept) := by
    refine Action.leads_bind _ (leads_transfer_wants begins) fun _ => ?_
    refine Action.leads_bind (fun _ => Wants port kept) (Action.leads_update fun _ here => here)
      fun _ => ?_
    exact Action.leads_current_bind fun state here =>
      (keeps_poll_wants spares _ _).of_imp fun _ same => same ▸ here
  refine Action.leads_bind _ resets fun _ => ?_
  refine Action.leads_bind _ (keeps_configure_wants spares _) fun _ => ?_
  exact Action.leads_bind _ (keeps_readPort_of (keeps_register_wants spares)) fun current =>
    keeps_correctPort_of (fun _ => leads_transfer_wants (spares.adjust _))
      (keeps_register_wants spares) _ current

/-- **A chip that was built** has the wanted port codes, and whatever comes of it, what is spared
holds. -/
theorem leads_build
    (begins : Leads start (link.bus.write 0x18 [0xf0]) (fun _ => kept) kept)
    (settings : ChipSettings) :
    Leads start (build link settings) (fun chip line => chip.port = settings.port ∧ kept line)
      kept := by
  intro line holds
  have ended := leads_setUp_wants spares begins settings (fresh settings, line) ⟨rfl, holds⟩
  rw [build, Action.perform_ofStep]
  generalize (setUp link settings).perform (fresh settings, line) = performed at ended ⊢
  obtain ⟨error | _, chip, reached⟩ := performed
  · exact ended.2
  · exact ended

end Spares

end Chip

namespace ChipBank

variable {σ ε α : Type} (bus : I2c σ ε) (pause : Nat → σ → σ)

/-! ### One channel -/

/-- What happens on the bus while one channel is used, in order. The output of the channel is
selected for each transfer. If the switch takes that, the transfer goes to the chip; it is never the
selection of an output. -/
inductive Visits (address : PeerAddress) (output : UInt8) : List Transfer → Prop
  | start : Visits address output []
  | refused {made : List Transfer} (visits : Visits address output made) :
    Visits address output (made ++ [.write address [1 <<< output] false])
  | passed {made : List Transfer} {transfer : Transfer} (visits : Visits address output made)
      (chip : transfer.peer = 0x18)
      (other : ∀ selected : UInt8, transfer.demand ≠ .write address [1 <<< selected]) :
    Visits address output (made ++ [.write address [1 <<< output] true, transfer])

/-- A selection that is made is that of the channel. -/
theorem Visits.selected {address : PeerAddress} {output selected : UInt8} {made : List Transfer}
    (visits : Visits address output made) {transfer : Transfer} (member : transfer ∈ made)
    (selects : transfer.demand = .write address [1 <<< selected]) :
    (1 : UInt8) <<< selected = 1 <<< output := by
  have same {done : Bool} (own : transfer = .write address [1 <<< output] done) :
      (1 : UInt8) <<< selected = 1 <<< output := by
    subst own
    injection selects with _ bytes
    exact (List.cons.inj bytes).1.symm
  induction visits with
  | start => exact absurd member List.not_mem_nil
  | refused _ ih =>
    rcases List.mem_append.mp member with earlier | last
    · exact ih earlier
    · exact same (List.mem_singleton.mp last)
  | passed _ _ other ih =>
    rcases List.mem_append.mp member with earlier | last
    · exact ih earlier
    · rcases List.mem_cons.mp last with own | last
      · exact same own
      · exact absurd (List.mem_singleton.mp last ▸ selects) (other selected)

/-- The switch was found, and something holds of the notes. -/
def Found (address : PeerAddress) (holds : List Transfer → Prop)
    (state : Mux × (σ × List Transfer)) : Prop :=
  state.1 = ⟨address, true⟩ ∧ holds state.2.2

variable {bus} {address : PeerAddress} {output : UInt8}

theorem leads_select {start kept : List Transfer → Prop} (inside : output.toNat < 8)
    (refused : ∀ notes, start notes → kept (.write address [1 <<< output] false :: notes)) :
    Leads (Found address start) (Mux.select (bus.traced id) output)
      (fun _ => Found address fun notes =>
        ∃ earlier, notes = .write address [1 <<< output] true :: earlier ∧ start earlier)
      (Found address kept) := by
  rintro ⟨mux, line, notes⟩ ⟨known, holds⟩
  obtain rfl : mux = ⟨address, true⟩ := known
  rw [Mux.select, if_neg (Nat.not_le.mpr inside : ¬ Mux.channels ≤ output.toNat),
    Mux.writeControl_perform, if_pos rfl]
  simp only [I2c.traced, Action.noted_perform]
  rcases (bus.write address [Mux.control output]).perform line with ⟨error | _, reached⟩
  · exact ⟨rfl, refused notes holds⟩
  · exact ⟨rfl, notes, rfl, holds⟩

theorem leads_forward {start kept : List Transfer → Prop} (action : Action σ ε α)
    (note : Option α → Transfer)
    (passed : ∀ notes result, start notes → kept (note result :: notes)) :
    Leads (Found address start) (Mux.forward (action.noted note)) (fun _ => Found address kept)
      (Found address kept) := by
  rintro ⟨mux, line, notes⟩ ⟨known, holds⟩
  obtain rfl : mux = ⟨address, true⟩ := known
  rw [Mux.forward_perform, if_pos rfl, Action.noted_perform]
  rcases action.perform line with ⟨error | value, reached⟩
  · exact ⟨rfl, passed notes none holds⟩
  · exact ⟨rfl, passed notes (some value) holds⟩

/-- **A transfer of a channel adds its selection**, and itself if that is taken. -/
theorem leads_onChannel {start kept : List Transfer → Prop} (inside : output.toNat < 8)
    (action : Action σ ε α) (note : Option α → Transfer)
    (refused : ∀ notes, start notes → kept (.write address [1 <<< output] false :: notes))
    (passed : ∀ notes result, start notes →
      kept (note result :: .write address [1 <<< output] true :: notes)) :
    Leads (Found address start) (Mux.onChannel (bus.traced id) output (action.noted note))
      (fun _ => Found address kept) (Found address kept) :=
  Action.leads_bind _ (leads_select inside refused) fun _ =>
    leads_forward action note fun _ result ⟨earlier, same, holds⟩ =>
      same ▸ passed earlier result holds

/-- What holds of the notes about a channel that was used. -/
def Visited (address : PeerAddress) (output : UInt8) (notes : List Transfer) : Prop :=
  Visits address output notes.reverse ∧ notes ≠ []

theorem visited_refused {notes : List Transfer} (visits : Visits address output notes.reverse) :
    Visited address output (.write address [1 <<< output] false :: notes) := by
  refine ⟨?_, List.cons_ne_nil _ _⟩
  rw [List.reverse_cons]
  exact visits.refused

theorem visited_passed {notes : List Transfer} (visits : Visits address output notes.reverse)
    {transfer : Transfer} (chip : transfer.peer = 0x18)
    (other : ∀ selected : UInt8, transfer.demand ≠ .write address [1 <<< selected]) :
    Visited address output (transfer :: .write address [1 <<< output] true :: notes) := by
  refine ⟨?_, List.cons_ne_nil _ _⟩
  rw [List.reverse_cons, List.reverse_cons, List.append_assoc]
  exact visits.passed chip other

/-- No command of the chip that is written while it is set up selects an output of the switch. -/
theorem command_ne_selection {command : UInt8} (known : command = 0xc3 ∨ command = 0xf0)
    (peer : PeerAddress) (bytes : List UInt8) (selected : UInt8) :
    I2c.Demand.write peer (command :: bytes) ≠ .write address [1 <<< selected] := by
  have single : ∀ bits : BitVec 8, (1 : UInt8) <<< (⟨bits⟩ : UInt8) ≠ 0xc3 ∧
      (1 : UInt8) <<< (⟨bits⟩ : UInt8) ≠ 0xf0 := by decide +kernel
  intro same
  injection same with _ sent
  have first := (List.cons.inj sent).1
  rcases known with rfl | rfl
  · exact (single selected.toBitVec).1 first.symm
  · exact (single selected.toBitVec).2 first.symm

/-- The pauses beside notes. -/
def unnoted (pause : Nat → σ → σ) (milliseconds : Nat) (state : σ × List Transfer) :
    σ × List Transfer :=
  (pause milliseconds state.1, state.2)

variable (bus) {number : ChannelId}

theorem begins_link (inside : (number - 1).toNat < 8) :
    Leads (Found address (· = []))
      ((link (bus.traced id) (unnoted pause) number).bus.write 0x18 [0xf0])
      (fun _ => Found address (Visited address (number - 1)))
      (Found address (Visited address (number - 1))) := by
  refine leads_onChannel inside _ _ (fun notes none => ?_) fun notes result none => ?_
  · subst none
    exact visited_refused .start
  · subst none
    exact visited_passed .start rfl (command_ne_selection (.inr rfl) _ _)

theorem spares_link (inside : (number - 1).toNat < 8) :
    (link (bus.traced id) (unnoted pause) number).Spares
      (Found address (Visited address (number - 1))) where
  read := leads_onChannel inside _ _ (fun _ visited => visited_refused visited.1)
    fun _ _ visited => visited_passed visited.1 rfl fun _ => nofun
  writeRead _ _ := leads_onChannel inside _ _ (fun _ visited => visited_refused visited.1)
    fun _ _ visited => visited_passed visited.1 rfl fun _ => nofun
  adjust _ := leads_onChannel inside _ _ (fun _ visited => visited_refused visited.1)
    fun _ _ visited => visited_passed visited.1 rfl (command_ne_selection (.inl rfl) _ _)
  pause _ _ found := found

/-! ### Attempts -/

/-- An attempt to build the chip of a channel, what came of it, and what happened on the bus
meanwhile, in order. -/
structure Attempt (ε : Type) where
  number : ChannelId
  outcome : Except (ChipError (MuxError ε)) Chip
  made : List Transfer

/-- The channel, if its chip was built. -/
def Attempt.channel? (attempt : Attempt ε) : Option (Channel Chip) :=
  match attempt.outcome with
  | .ok chip => some ⟨attempt.number, chip, []⟩
  | .error _ => none

theorem Attempt.channel?_eq_some {attempt : Attempt ε} {channel : Channel Chip} :
    attempt.channel? = some channel ↔
      attempt.number = channel.id ∧ attempt.outcome = .ok channel.line ∧ channel.found = [] := by
  obtain ⟨number, error | chip, made⟩ := attempt
  · exact iff_of_false nofun fun ⟨_, same, _⟩ => nomatch same
  · obtain ⟨id, line, found⟩ := channel
    simp only [channel?, Option.some.injEq, Channel.mk.injEq, Except.ok.injEq, eq_comm]

/-- One attempt. -/
def attempt (settings : ChipSettings) (number : ChannelId) (state : Mux × σ) :
    Attempt ε × (Mux × σ) :=
  let (outcome, (mux, (line, notes))) :=
    (Chip.build (link (bus.traced id) (unnoted pause) number) settings).perform
      (state.1, (state.2, []))
  (⟨number, outcome, notes.reverse⟩, (mux, line))

/-- Attempts one after the other, whatever comes of them. -/
def attempts (settings : ChipSettings) : List ChannelId → Mux × σ → List (Attempt ε) × (Mux × σ)
  | [], state => ([], state)
  | number :: rest, state =>
    let (first, reached) := attempt bus pause settings number state
    let (others, last) := attempts settings rest reached
    (first :: others, last)

/-- What happened on the bus during attempts, in order. -/
def traffic (tried : List (Attempt ε)) : List Transfer := tried.flatMap Attempt.made

/-- What is true of an attempt whatever the bus does. It was really made, touched nothing but its
own channel, and built a chip with the wanted port codes or none. -/
structure Attempt.Sound (address : PeerAddress) (port : PortCodes) (attempt : Attempt ε) :
    Prop where
  visits : Visits address (attempt.number - 1) attempt.made
  made : attempt.made ≠ []
  port : ∀ chip, attempt.outcome = .ok chip → chip.port = port

theorem attempt_sound (settings : ChipSettings) (inside : (number - 1).toNat < 8) (line : σ) :
    (attempt bus pause settings number (⟨address, true⟩, line)).1.Sound address settings.port ∧
      (attempt bus pause settings number (⟨address, true⟩, line)).2.1 = ⟨address, true⟩ := by
  have ended := Chip.leads_build (spares_link bus pause inside) (begins_link bus pause inside)
    settings (⟨address, true⟩, (line, [])) ⟨rfl, rfl⟩
  unfold attempt
  generalize (Chip.build (link (bus.traced id) (unnoted pause) number) settings).perform
    (⟨address, true⟩, (line, [])) = performed at ended ⊢
  obtain ⟨error | chip, mux, reached, notes⟩ := performed
  · obtain ⟨known, visits, some⟩ := ended
    exact ⟨⟨visits, mt List.reverse_eq_nil_iff.mp some, nofun⟩, known⟩
  · obtain ⟨port, known, visits, some⟩ := ended
    refine ⟨⟨visits, mt List.reverse_eq_nil_iff.mp some, fun other same => ?_⟩, known⟩
    obtain rfl := Except.ok.inj same
    exact port

/-- **Each channel is attempted once**, and each attempt is sound. -/
theorem attempts_sound (settings : ChipSettings) {numbers : List ChannelId}
    (inside : ∀ number ∈ numbers, (number - 1).toNat < 8) (line : σ) :
    (attempts bus pause settings numbers (⟨address, true⟩, line)).1.map Attempt.number = numbers ∧
      ∀ attempt ∈ (attempts bus pause settings numbers (⟨address, true⟩, line)).1,
        attempt.Sound address settings.port := by
  induction numbers generalizing line with
  | nil => exact ⟨rfl, nofun⟩
  | cons number rest ih =>
    obtain ⟨sound, known⟩ := attempt_sound bus pause settings
      (inside number List.mem_cons_self) line
    have named : (attempt bus pause settings number (⟨address, true⟩, line)).1.number = number :=
      rfl
    rw [attempts]
    generalize attempt bus pause settings number (⟨address, true⟩, line) = tried
      at sound known named ⊢
    obtain ⟨first, mux, reached⟩ := tried
    obtain rfl : mux = ⟨address, true⟩ := known
    obtain ⟨numbers, others⟩ :=
      ih (fun other member => inside other (List.mem_cons_of_mem _ member)) reached
    refine ⟨by rw [List.map_cons, named, numbers], fun other member => ?_⟩
    rcases List.mem_cons.mp member with rfl | member
    · exact sound
    · exact others other member

/-- Notes that were made before an attempt do not matter for it. -/
theorem attempt_appends (settings : ChipSettings) (number : ChannelId) (mux : Mux) (line : σ)
    (notes : List Transfer) :
    (Chip.build (link (bus.traced id) (unnoted pause) number) settings).perform
        (mux, (line, notes)) =
      ((attempt bus pause settings number (mux, line)).1.outcome,
        ((attempt bus pause settings number (mux, line)).2.1,
          ((attempt bus pause settings number (mux, line)).2.2,
            (attempt bus pause settings number (mux, line)).1.made.reverse ++ notes))) := by
  have waits (milliseconds : Nat) (state : σ × List Transfer) :
      unnoted pause milliseconds (state.1, state.2 ++ notes) =
        ((unnoted pause milliseconds state).1, (unnoted pause milliseconds state).2 ++ notes) := rfl
  have appends := Chip.mirrors_build (mirrors_link (I2c.traced_appends id bus notes) waits number)
    settings (mux, (line, []))
  have start : Mux.beside (fun state => (state.1, state.2 ++ notes)) (mux, (line, [])) =
      (mux, (line, notes)) := rfl
  rw [start] at appends
  rw [appends]
  simp [attempt, Mux.beside]

/-- Building the chips of some channels is to attempt those in use, and to leave out those that
failed. -/
theorem build_eq (config : Config) (port : PortCodes) (numbers : List ChannelId) (state : Mux × σ)
    (notes : List Transfer) :
    let settings : ChipSettings :=
      ⟨Chip.defaultSettings.retries, .ofPullups config.activePullup config.strongPullup, port⟩
    let tried := attempts bus pause settings (numbers.filter config.inUse) state
    build (bus.traced id) (unnoted pause) config port numbers (state.1, (state.2, notes)) =
      (tried.1.filterMap Attempt.channel?,
        (tried.2.1, (tried.2.2, (traffic tried.1).reverse ++ notes))) := by
  intro settings
  induction numbers generalizing state notes with
  | nil => rfl
  | cons number rest ih =>
    rw [build]
    by_cases used : config.inUse number
    · rw [if_pos used, List.filter_cons_of_pos used, attempts]
      dsimp only
      rw [attempt_appends]
      have named : (attempt bus pause settings number state).1.number = number := rfl
      generalize attempt bus pause settings number state = tried at named ⊢
      obtain ⟨⟨first, error | chip, made⟩, reached⟩ := tried
      · dsimp only
        rw [ih reached (made.reverse ++ notes)]
        simp [traffic, List.filterMap_cons, Attempt.channel?]
      · obtain rfl : first = number := named
        dsimp only
        rw [ih reached (made.reverse ++ notes)]
        simp [traffic, Attempt.channel?]
    · rw [if_neg used, List.filter_cons_of_neg used]
      exact ih state notes

/-! ### Setting up -/

/-- What setting channels up comes to, given the answer of the switch and the attempts, with what
happens on the bus, in order. -/
inductive BringUp (address : PeerAddress) (timing : Timing) (answer : Except ε (Vector UInt8 1))
    (tried : List (Attempt ε)) :
    Except (BankError ε) (List (Channel Chip)) → List Transfer → Prop
  | missing {error : ε} (failed : answer = .error error) :
    BringUp address timing answer tried (.error (.mux (.i2c error))) [.read address 1 false]
  | invalid {register : Vector UInt8 1} (found : answer = .ok register)
      (large : ∃ code ∈ timing.codes, 15 < code) :
    BringUp address timing answer tried (.error .invalidTiming) [.read address 1 true]
  | done {register : Vector UInt8 1} (found : answer = .ok register)
      (fit : ∀ code ∈ timing.codes, code ≤ 15) :
    BringUp address timing answer tried (.ok (tried.filterMap Attempt.channel?))
      (.read address 1 true :: traffic tried)

/-- The attempts that are made once the switch was found. -/
def tried (config : Config) (address : PeerAddress) (line : σ) : List (Attempt ε) :=
  let settings : ChipSettings :=
    ⟨Chip.defaultSettings.retries, .ofPullups config.activePullup config.strongPullup,
      config.timing.port⟩
  (attempts bus pause settings (ids.filter config.inUse) (⟨address, true⟩, line)).1

theorem probe_traced (address : PeerAddress) (line : σ) :
    (Mux.probe (bus.traced id)).perform (.fresh address, (line, [])) =
      match (bus.read address 1).perform line with
      | (.ok register, reached) =>
        (.ok register.head, (⟨address, true⟩, (reached, [.read address 1 true])))
      | (.error error, reached) =>
        (.error (.i2c error), (.fresh address, (reached, [.read address 1 false]))) := by
  rw [Mux.probe_perform]
  simp only [I2c.traced, Action.noted_perform, Mux.fresh]
  rcases (bus.read address 1).perform line with ⟨error | register, reached⟩ <;> rfl

theorem setUp_bringUp (config : Config) (address : PeerAddress) (line : σ) :
    let ended :=
      (setUp (bus.traced id) (unnoted pause) config).perform (.fresh address, (line, []))
    let asked := (bus.read address 1).perform line
    BringUp address config.timing asked.1 (tried bus pause config address asked.2) ended.1
      ended.2.2.2.reverse := by
  dsimp only
  rw [setUp, Action.perform_bind, Action.perform_mapError, probe_traced]
  rcases (bus.read address 1).perform line with ⟨error | register, reached⟩
  · exact .missing rfl
  · by_cases fit : ∀ code ∈ config.timing.codes, code ≤ 15
    · have built := build_eq bus pause config config.timing.port ids (⟨address, true⟩, reached)
        [.read address 1 true]
      rw [Timing.port?_of_fit fit]
      dsimp only [Except.mapError] at built ⊢
      rw [Action.perform_ofStep, built, List.reverse_append, List.reverse_reverse]
      exact .done rfl fit
    · have unfit : config.timing.port? = none :=
        Option.eq_none_iff_forall_ne_some.mpr fun _ made => fit (Timing.fit_of_port? made)
      rw [unfit]
      exact .invalid rfl (by simpa using fit)

/-! ### The channels -/

theorem ids_filter_ascending (used : ChannelId → Bool) : (ids.filter used).Pairwise (· < ·) :=
  List.Pairwise.filter used (by decide : ids.Pairwise (· < ·))

/-- Only four channels can be in use. -/
theorem mem_ids {config : Config} {number : ChannelId} (used : config.inUse number = true) :
    number ∈ ids := by
  have every : ∀ bits : BitVec 8, (⟨bits⟩ : UInt8) ≠ 0 → (⟨bits⟩ : UInt8).toNat - 1 < 4 →
      (⟨bits⟩ : UInt8) ∈ ids := by decide +kernel
  unfold Config.inUse at used
  obtain ⟨some, listed⟩ := (Bool.and_eq_true _ _).mp used
  refine every number.toBitVec (by simpa using some) (Nat.lt_of_not_le fun beyond => ?_)
  rw [Vector.getElem?_eq_none (by simpa using beyond)] at listed
  exact nomatch listed

/-- An output is selected only for the channel that is counted from it. -/
theorem number_of_selection {output number : UInt8} (inside : output < 8) (known : number ∈ ids)
    (same : (1 : UInt8) <<< output = 1 <<< (number - 1)) : output + 1 = number := by
  have every : ∀ bits : BitVec 8, (⟨bits⟩ : UInt8) < 8 → ∀ number ∈ ids,
      (1 : UInt8) <<< (⟨bits⟩ : UInt8) = 1 <<< (number - 1) → (⟨bits⟩ : UInt8) + 1 = number := by
    decide +kernel
  exact every output.toBitVec inside number known same

/-- The channels whose chips were built are in the order of the attempts. -/
theorem channels_sublist (tried : List (Attempt ε)) :
    ((tried.filterMap Attempt.channel?).map Channel.id).Sublist (tried.map Attempt.number) := by
  induction tried with
  | nil => exact .slnil
  | cons attempt rest ih =>
    cases built : attempt.channel? with
    | none =>
      rw [List.filterMap_cons_none built]
      exact .cons _ ih
    | some channel =>
      rw [List.filterMap_cons_some built, List.map_cons, List.map_cons,
        (Attempt.channel?_eq_some.mp built).1]
      exact .cons_cons _ ih

namespace BringUp

variable {timing : Timing} {answer : Except ε (Vector UInt8 1)} {tried : List (Attempt ε)}
  {outcome : Except (BankError ε) (List (Channel Chip))} {made : List Transfer}
  (ends : BringUp address timing answer tried outcome made)

include ends

theorem mux_iff : (∃ error, outcome = .error (.mux error)) ↔ ∃ error, answer = .error error := by
  cases ends with
  | missing failed => exact iff_of_true ⟨_, rfl⟩ ⟨_, failed⟩
  | invalid found _ =>
    subst found
    exact iff_of_false nofun nofun
  | done found _ =>
    subst found
    exact iff_of_false nofun nofun

theorem timing_iff : outcome = .error .invalidTiming ↔
    (∃ register, answer = .ok register) ∧ ∃ code ∈ timing.codes, 15 < code := by
  cases ends with
  | missing failed =>
    subst failed
    exact iff_of_false nofun fun ⟨⟨_, found⟩, _⟩ => nomatch found
  | invalid found large => exact iff_of_true rfl ⟨⟨_, found⟩, large⟩
  | done _ fit =>
    exact iff_of_false nofun fun ⟨_, code, member, large⟩ =>
      absurd large (UInt8.not_lt.mpr (fit code member))

theorem channels_eq {channels : List (Channel Chip)} (set : outcome = .ok channels) :
    channels = tried.filterMap Attempt.channel? := by
  cases ends with
  | missing => exact nomatch set
  | invalid => exact nomatch set
  | done => exact (Except.ok.inj set).symm

/-- Writes happen during the attempts only. -/
theorem mem_of_write {peer : PeerAddress} {bytes : List UInt8} {done : Bool}
    (written : .write peer bytes done ∈ made) :
    ∃ attempt ∈ tried, .write peer bytes done ∈ attempt.made := by
  cases ends with
  | missing => exact nomatch List.mem_singleton.mp written
  | invalid => exact nomatch List.mem_singleton.mp written
  | done =>
    rcases List.mem_cons.mp written with same | later
    · exact nomatch same
    · exact List.mem_flatMap.mp later

end BringUp

theorem tried_sound (config : Config) (address : PeerAddress) (line : σ) :
    (tried bus pause config address line).map Attempt.number = ids.filter config.inUse ∧
      ∀ attempt ∈ tried bus pause config address line,
        attempt.Sound address config.timing.port := by
  refine attempts_sound bus pause _ (fun number member => ?_) line
  have every : ∀ number ∈ ids, (number - 1).toNat < 8 := by decide +kernel
  exact every number (List.mem_filter.mp member).1

/-- **Setting up the channels isolates chips that fail.** It fails with an error of the switch if
and only if the switch does not answer, and otherwise with an error of the timing if and only if a
configured code is larger than fifteen; nothing happens after that. Otherwise each channel in use is
attempted once, in order and whatever comes of the others. The channels in ascending order are those
whose chips were built in their attempts, each with the configured port codes. The output of a
channel that is not in use is never selected. -/
theorem setUp_isolates (bus : I2c σ ε) (pause : Nat → σ → σ) (config : Config)
    (address : PeerAddress) (line : σ) :
    let ended :=
      (setUp (bus.traced id) (unnoted pause) config).perform (.fresh address, (line, []))
    let made := ended.2.2.2.reverse
    let asked := (bus.read address 1).perform line
    let tried := tried bus pause config address asked.2
    (setUp bus pause config).perform (.fresh address, line) =
        (ended.1, (ended.2.1, ended.2.2.1)) ∧
      BringUp address config.timing asked.1 tried ended.1 made ∧
      ((∃ error, ended.1 = .error (.mux error)) ↔ ∃ error, asked.1 = .error error) ∧
      (ended.1 = .error .invalidTiming ↔
        (∃ register, asked.1 = .ok register) ∧ ∃ code ∈ config.timing.codes, 15 < code) ∧
      tried.map Attempt.number = ids.filter config.inUse ∧
      (∀ number, config.inUse number = true → ∃ attempt ∈ tried, attempt.number = number) ∧
      (∀ attempt ∈ tried, attempt.Sound address config.timing.port) ∧
      (∀ channels, ended.1 = .ok channels →
        (channels.map Channel.id).Pairwise (· < ·) ∧
        (∀ number chip, (∃ channel ∈ channels, channel.id = number ∧ channel.line = chip) ↔
          config.inUse number = true ∧
            ∃ attempt ∈ tried, attempt.number = number ∧ attempt.outcome = .ok chip) ∧
        ∀ channel ∈ channels, channel.line.port = config.timing.port) ∧
      ∀ output done, output < 8 → .write address [1 <<< output] done ∈ made →
        config.inUse (output + 1) = true := by
  intro ended made asked tried
  have ends : BringUp address config.timing asked.1 tried ended.1 made :=
    setUp_bringUp bus pause config address line
  obtain ⟨numbers, sound⟩ := tried_sound bus pause config address asked.2
  have used {attempt : Attempt ε} (member : attempt ∈ tried) :
      attempt.number ∈ ids ∧ config.inUse attempt.number = true := by
    have listed : attempt.number ∈ tried.map Attempt.number := List.mem_map_of_mem member
    rw [numbers] at listed
    exact List.mem_filter.mp listed
  refine ⟨?_, ends, ends.mux_iff, ends.timing_iff, numbers, fun number inUse => ?_, sound,
    fun channels set => ?_, fun output done inside written => ?_⟩
  · exact mirrors_setUp (I2c.traced_mirrors id bus) (fun _ _ => rfl) config
      (.fresh address, (line, []))
  · refine List.mem_map.mp ?_
    rw [numbers]
    exact List.mem_filter.mpr ⟨mem_ids inUse, inUse⟩
  · obtain rfl := ends.channels_eq set
    refine ⟨?_, fun number chip => ⟨?_, ?_⟩, fun channel member => ?_⟩
    · have ascending := ids_filter_ascending config.inUse
      rw [← numbers] at ascending
      exact ascending.sublist (channels_sublist tried)
    · rintro ⟨channel, member, rfl, rfl⟩
      obtain ⟨attempt, there, built⟩ := List.mem_filterMap.mp member
      obtain ⟨same, outcome, _⟩ := Attempt.channel?_eq_some.mp built
      exact ⟨same ▸ (used there).2, attempt, there, same, outcome⟩
    · rintro ⟨_, attempt, there, rfl, outcome⟩
      exact ⟨⟨attempt.number, chip, []⟩, List.mem_filterMap.mpr
        ⟨attempt, there, Attempt.channel?_eq_some.mpr ⟨rfl, outcome, rfl⟩⟩, rfl, rfl⟩
    · obtain ⟨attempt, there, built⟩ := List.mem_filterMap.mp member
      obtain ⟨_, outcome, _⟩ := Attempt.channel?_eq_some.mp built
      exact (sound attempt there).port channel.line outcome
  · obtain ⟨attempt, there, sent⟩ := ends.mem_of_write written
    obtain ⟨known, inUse⟩ := used there
    have same := (sound attempt there).visits.selected sent rfl
    exact (number_of_selection inside known same) ▸ inUse

/-- Of two channels in use, the first one is set up, and the other one echoes a wrong
configuration. -/
example :
    let config : Config := { Config.default with channels := #v[true, false, true, false] }
    let bytes : List UInt8 := [0x00, 0x18, 0x01, 6, 6, 6, 6, 6, 6, 6, 6, 0x18, 0x00]
    let bus : I2c (List UInt8) Empty := Sim.answering
    let ended := (setUp bus (fun _ line => line) config).perform (.fresh 0x70, bytes)
    ended.1.toOption.map (fun channels => channels.map Channel.id) = some [1] ∧ ended.2.2 = [] := by
  decide +kernel

end ChipBank

end WireBridge
