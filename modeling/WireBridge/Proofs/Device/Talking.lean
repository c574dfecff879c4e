/-
**What conversions say on a line.**

* `Master.logged`: a bus master that logs its calls in the world that all lines share;
* `Master.Notes`: a bus master that notes each call of a primitive, once and in order;
* `BusCall.Broadcasts`: the calls that start a conversion on every device of a line;
* `BusCall.Talks`: calls to one device, which is selected anew after each reset;
* `BusCall.Converts`: calls to one device, the last of which starts a conversion;
* `Master.Notes.leads_sampleFamily`, `Master.Notes.leads_sample`: **what is said** when a conversion
  is started, on all devices of a line or on one.
-/

import WireBridge.Bus.Trace
import WireBridge.Proofs.Device.Drivers

namespace WireBridge

open WireBridge.Action (Leads Keeps)

variable {σ τ β ω ε ν α : Type}

/-! ### Logs -/

/-- An action on a state that is given in another form. -/
def Action.through (enter : τ → σ) (leave : σ → τ) (action : Action σ ε α) : Action τ ε α :=
  Action.ofStep fun state =>
    let (outcome, reached) := action.perform (enter state)
    (outcome, leave reached)

namespace Master

/-- The bus master on a state that is given in another form. -/
def through (enter : τ → σ) (leave : σ → τ) (master : Master σ ε) : Master τ ε where
  reset := master.reset.through enter leave
  writeByte byte := (master.writeByte byte).through enter leave
  readByte := master.readByte.through enter leave
  writeBit value := (master.writeBit value).through enter leave
  readBit := master.readBit.through enter leave
  readTriplet direction := (master.readTriplet direction).through enter leave

/-- The bus master of a line with a log of its calls, the latest first, in the world that the lines
share. -/
def logged (note : BusCall → ν) (master : Master (β × ω) ε) : Master (β × (ω × List ν)) ε :=
  (master.traced note).through (fun (line, (world, notes)) => ((line, world), notes))
    fun ((line, world), notes) => (line, (world, notes))

/-- Each call of a primitive is noted with its result, and nothing else is. -/
structure Notes (master : Master σ ε) (log : σ → List ν) (note : BusCall → ν) : Prop where
  reset : ∀ state, log (master.reset.perform state).2 =
    note (.reset (master.reset.perform state).1.toOption) :: log state
  writeByte : ∀ byte state, log ((master.writeByte byte).perform state).2 =
    note (.writeByte byte ((master.writeByte byte).perform state).1.toOption) :: log state
  readByte : ∀ state, log (master.readByte.perform state).2 =
    note (.readByte (master.readByte.perform state).1.toOption) :: log state

theorem notes_traced (note : BusCall → ν) (master : Master σ ε) :
    (master.traced note).Notes Prod.snd note :=
  ⟨fun _ => rfl, fun _ _ => rfl, fun _ => rfl⟩

theorem notes_logged (note : BusCall → ν) (master : Master (β × ω) ε) :
    (master.logged note).Notes (fun state => state.2.2) note :=
  ⟨fun _ => rfl, fun _ _ => rfl, fun _ => rfl⟩

end Master

/-! ### Calls -/

namespace BusCall

/-- The calls that start a conversion on every device of a line, and whether they did: a reset that
is answered, Skip ROM and Convert T, up to the first that fails. -/
inductive Broadcasts : List BusCall → Bool → Prop
  | unreset : Broadcasts [.reset none] false
  | unanswered {status : ResetStatus}
      (silent : status.shortCircuit = true ∨ status.presence = false) :
      Broadcasts [.reset (some status)] false
  | unskipped {status : ResetStatus}
      (answered : status.shortCircuit = false ∧ status.presence = true) :
      Broadcasts [.reset (some status), .writeByte 0xcc none] false
  | unconverted {status : ResetStatus}
      (answered : status.shortCircuit = false ∧ status.presence = true) :
      Broadcasts [.reset (some status), .writeByte 0xcc (some ()), .writeByte 0x44 none] false
  | started {status : ResetStatus}
      (answered : status.shortCircuit = false ∧ status.presence = true) :
      Broadcasts [.reset (some status), .writeByte 0xcc (some ()), .writeByte 0x44 (some ())] true

/-- The bytes that select one device: Match ROM and its code. -/
def selection (code : Address) : List UInt8 := 0x55 :: code.bytes

/-- Calls to one device, the latest first, and how many bytes that select it have been written since
the last reset. After each reset come all of them, and only then any other calls. -/
inductive Talks (code : Address) : Nat → List BusCall → Prop
  | silent : Talks code 9 []
  | reset {calls : List BusCall} (talks : Talks code 9 calls) (status : Option ResetStatus) :
      Talks code 0 (.reset status :: calls)
  | selects {sent : Nat} {byte : UInt8} {calls : List BusCall} (talks : Talks code sent calls)
      (next : (selection code)[sent]? = some byte) (result : Option Unit) :
      Talks code (sent + 1) (.writeByte byte result :: calls)
  | speaks {call : BusCall} {calls : List BusCall} (talks : Talks code 9 calls)
      (begun : calls ≠ []) (other : ∀ status, call ≠ .reset status) : Talks code 9 (call :: calls)

/-- Calls to one device that have selected it. -/
def Selects (code : Address) (calls : List BusCall) : Prop := Talks code 9 calls ∧ calls ≠ []

/-- Some calls to one device, which may not have selected it yet. -/
def Addresses (code : Address) (calls : List BusCall) : Prop :=
  (∃ sent, Talks code sent calls) ∧ calls ≠ []

/-- Calls to one device, the last of which starts the conversion of a voltage. -/
def Converts (code : Address) (calls : List BusCall) : Prop :=
  ∃ earlier, calls = .writeByte 0xb4 (some ()) :: earlier ∧ Selects code earlier

theorem Selects.addresses {code : Address} {calls : List BusCall} (selects : Selects code calls) :
    Addresses code calls :=
  ⟨⟨9, selects.1⟩, selects.2⟩

theorem Selects.speaks {code : Address} {calls : List BusCall} (selects : Selects code calls)
    {call : BusCall} (other : ∀ status, call ≠ .reset status) : Selects code (call :: calls) :=
  ⟨.speaks selects.1 selects.2 other, List.cons_ne_nil _ _⟩

end BusCall

open BusCall (Broadcasts Talks Selects Addresses Converts selection)

/-! ### What is heard -/

namespace Master.Notes

variable {master : Master σ ε} {log : σ → List ν} {note : BusCall → ν} {earlier : List ν}
  {code : Address} (notes : master.Notes log note)

/-- The calls since the log was as it is given, the latest first, are of some kind. -/
def Heard (log : σ → List ν) (note : BusCall → ν) (earlier : List ν)
    (kind : List BusCall → Prop) (state : σ) : Prop :=
  ∃ calls, kind calls ∧ log state = calls.map note ++ earlier

theorem Heard.mono {kind wanted : List BusCall → Prop} {state : σ}
    (heard : Heard log note earlier kind state) (weaker : ∀ calls, kind calls → wanted calls) :
    Heard log note earlier wanted state := by
  obtain ⟨calls, known, same⟩ := heard
  exact ⟨calls, weaker calls known, same⟩

section Primitives

variable {before after broken : List BusCall → Prop}

include notes

theorem leads_writeByte {byte : UInt8}
    (written : ∀ calls, before calls → after (.writeByte byte (some ()) :: calls))
    (failed : ∀ calls, before calls → broken (.writeByte byte none :: calls)) :
    Leads (Heard log note earlier before) (master.writeByte byte)
      (fun _ => Heard log note earlier after) (Heard log note earlier broken) := by
  rintro state ⟨calls, known, same⟩
  have noted := notes.writeByte byte state
  rw [same] at noted
  generalize (master.writeByte byte).perform state = performed at noted ⊢
  obtain ⟨error | done, reached⟩ := performed
  · exact ⟨_, failed calls known, noted⟩
  · exact ⟨_, written calls known, noted⟩

theorem leads_reset {wanted : ResetStatus → List BusCall → Prop}
    (done : ∀ status calls, before calls → wanted status (.reset (some status) :: calls))
    (failed : ∀ calls, before calls → broken (.reset none :: calls)) :
    Leads (Heard log note earlier before) master.reset
      (fun status => Heard log note earlier (wanted status)) (Heard log note earlier broken) := by
  rintro state ⟨calls, known, same⟩
  have noted := notes.reset state
  rw [same] at noted
  generalize master.reset.perform state = performed at noted ⊢
  obtain ⟨error | status, reached⟩ := performed
  · exact ⟨_, failed calls known, noted⟩
  · exact ⟨_, done status calls known, noted⟩

/-- A reset that has to be answered. -/
theorem leads_strict
    (answered : ∀ status calls, before calls → status.shortCircuit = false →
      status.presence = true → after (.reset (some status) :: calls))
    (silent : ∀ status calls, before calls →
      status.shortCircuit = true ∨ status.presence = false →
        broken (.reset (some status) :: calls))
    (failed : ∀ calls, before calls → broken (.reset none :: calls)) :
    Leads (Heard log note earlier before) master.strict.reset
      (fun _ => Heard log note earlier after) (Heard log note earlier broken) := by
  refine Action.leads_bind
    (fun status => Heard log note earlier fun calls =>
      ∃ rest, calls = .reset (some status) :: rest ∧ before rest)
    (notes.leads_reset (fun status calls known => ⟨calls, rfl, known⟩) failed) fun status => ?_
  obtain ⟨presence, short, level, direction⟩ := status
  cases short with
  | true =>
    refine Action.leads_fail fun state heard => heard.mono ?_
    rintro _ ⟨calls, rfl, known⟩
    exact silent _ calls known (.inl rfl)
  | false =>
    cases presence with
    | false =>
      refine Action.leads_fail fun state heard => heard.mono ?_
      rintro _ ⟨calls, rfl, known⟩
      exact silent _ calls known (.inr rfl)
    | true =>
      refine Action.leads_pure fun state heard => heard.mono ?_
      rintro _ ⟨calls, rfl, known⟩
      exact answered _ calls known rfl rfl

end Primitives

/-! ### All devices of a line -/

include notes in
/-- **A conversion of all devices** of a line is one broadcast. -/
theorem leads_broadcast :
    Leads (Heard log note earlier (· = []))
      (do
        master.select none
        master.writeByte FunctionCommand.convertTemperature.code)
      (fun _ => Heard log note earlier fun calls => Broadcasts calls.reverse true)
      (Heard log note earlier fun calls => Broadcasts calls.reverse false) := by
  let reset (calls : List BusCall) : Prop := ∃ status : ResetStatus,
    (status.shortCircuit = false ∧ status.presence = true) ∧ calls = [.reset (some status)]
  let skipped (calls : List BusCall) : Prop := ∃ status : ResetStatus,
    (status.shortCircuit = false ∧ status.presence = true) ∧
      calls = [.writeByte 0xcc (some ()), .reset (some status)]
  refine Action.leads_bind (fun _ => Heard log note earlier skipped)
    (Action.leads_bind (fun _ => Heard log note earlier reset) ?_ fun _ => ?_) fun _ => ?_
  · refine notes.leads_strict ?_ ?_ ?_
    · rintro status _ rfl short presence
      exact ⟨status, ⟨short, presence⟩, rfl⟩
    · rintro status _ rfl silent
      exact .unanswered silent
    · rintro _ rfl
      exact .unreset
  · refine notes.leads_writeByte ?_ ?_
    · rintro _ ⟨status, answered, rfl⟩
      exact ⟨status, answered, rfl⟩
    · rintro _ ⟨status, answered, rfl⟩
      exact .unskipped answered
  · refine notes.leads_writeByte ?_ ?_
    · rintro _ ⟨status, answered, rfl⟩
      exact .started answered
    · rintro _ ⟨status, answered, rfl⟩
      exact .unconverted answered

include notes in
/-- Families whose devices measure something are sampled by a broadcast. -/
theorem leads_sampleFamily {family : FamilyCode} (measures : Family.quantities family ≠ []) :
    Leads (Heard log note earlier (· = [])) (Device.sampleFamily master family)
      (fun _ => Heard log note earlier fun calls => Broadcasts calls.reverse true)
      (Heard log note earlier fun calls => Broadcasts calls.reverse false) := by
  unfold Device.sampleFamily
  split
  · exact Action.leads_bind _ notes.leads_broadcast fun _ => Action.leads_pure fun _ here => here
  · split
    · exact Action.leads_bind _ notes.leads_broadcast fun _ => Action.leads_pure fun _ here => here
    · next notThermometer notMonitor =>
      unfold Family.quantities at measures
      rw [if_neg notThermometer, if_neg notMonitor] at measures
      exact absurd rfl measures

/-! ### One device -/

section Talk

include notes

theorem leads_selection (bytes : List UInt8) {sent : Nat}
    (rest : (selection code).drop sent = bytes) :
    Leads (Heard log note earlier fun calls => Talks code sent calls ∧ calls ≠ [])
      (master.writeBytes bytes)
      (fun _ => Heard log note earlier fun calls =>
        Talks code (sent + bytes.length) calls ∧ calls ≠ [])
      (Heard log note earlier (Addresses code)) := by
  induction bytes generalizing sent with
  | nil => exact Action.leads_pure fun _ here => here
  | cons byte others ih =>
    have next : (selection code)[sent]? = some byte := by
      rw [← Nat.add_zero sent, ← List.getElem?_drop, rest]
      rfl
    have later : (selection code).drop (sent + 1) = others := by
      rw [← List.drop_drop, rest]
      rfl
    have length : sent + (byte :: others).length = sent + 1 + others.length := by
      rw [List.length_cons]
      omega
    rw [length]
    refine Action.leads_bind _ (notes.leads_writeByte (fun calls known => ?_)
      fun calls known => ?_) fun _ => ih later
    · exact ⟨.selects known.1 next _, List.cons_ne_nil _ _⟩
    · exact ⟨⟨_, .selects known.1 next _⟩, List.cons_ne_nil _ _⟩

/-- Selecting a device after other calls to it, or after none. -/
theorem leads_select :
    Leads (Heard log note earlier (Talks code 9)) (master.select (some code))
      (fun _ => Heard log note earlier (Selects code))
      (Heard log note earlier (Addresses code)) := by
  refine Action.leads_bind
    (fun _ => Heard log note earlier fun calls => Talks code 0 calls ∧ calls ≠ [])
    (notes.leads_strict ?_ ?_ ?_) fun _ => ?_
  · exact fun status calls talks _ _ => ⟨.reset talks _, List.cons_ne_nil _ _⟩
  · exact fun status calls talks _ => ⟨⟨0, .reset talks _⟩, List.cons_ne_nil _ _⟩
  · exact fun calls talks => ⟨⟨0, .reset talks _⟩, List.cons_ne_nil _ _⟩
  · exact notes.leads_selection (selection code) rfl

theorem keeps_byte (byte : UInt8) :
    Keeps (Heard log note earlier (Selects code)) (master.writeByte byte) :=
  notes.leads_writeByte (fun _ selects => selects.speaks nofun) fun _ selects =>
    selects.speaks nofun

theorem keeps_bytes (bytes : List UInt8) :
    Keeps (Heard log note earlier (Selects code)) (master.writeBytes bytes) := by
  induction bytes with
  | nil => exact Action.leads_pure fun _ here => here
  | cons byte rest ih => exact Action.leads_bind _ (notes.keeps_byte byte) fun _ => ih

theorem keeps_answer (count : Nat) :
    Keeps (Heard log note earlier (Selects code)) (master.readBytes count) := by
  refine Action.keeps_collect (Action.keeps_iff.mpr ?_) count
  rintro state ⟨calls, selects, same⟩
  have noted := notes.readByte state
  rw [same] at noted
  exact ⟨.readByte _ :: calls, selects.speaks nofun, noted⟩

omit notes in
/-- What is done with a device that is selected goes to that device, whether it fails or not. -/
theorem leads_of_keeps {action : Action σ (BusError ε) α}
    (keeps : Keeps (Heard log note earlier (Selects code)) action) :
    Leads (Heard log note earlier (Selects code)) action
      (fun _ => Heard log note earlier (Selects code))
      (Heard log note earlier (Addresses code)) :=
  keeps.mono (fun _ _ here => here) fun _ here => here.mono fun _ selects => selects.addresses

/-- What is done with a device after it is selected. -/
theorem leads_selected {action : Action σ (BusError ε) α}
    (keeps : Keeps (Heard log note earlier (Selects code)) action) :
    Leads (Heard log note earlier (Talks code 9)) (master.select (some code) >>= fun _ => action)
      (fun _ => Heard log note earlier (Selects code))
      (Heard log note earlier (Addresses code)) :=
  Action.leads_bind _ notes.leads_select fun _ => leads_of_keeps keeps

theorem leads_read (command : List UInt8) :
    Leads (Heard log note earlier (Talks code 9)) (Scratchpad.read master code command)
      (fun _ => Heard log note earlier (Selects code))
      (Heard log note earlier (Addresses code)) := by
  refine notes.leads_selected (Action.leads_bind _ (notes.keeps_bytes command) fun _ => ?_)
  refine Action.leads_bind _ (notes.keeps_answer 9) fun page => ?_
  split
  · exact Action.leads_pure fun _ here => here
  · exact Action.leads_fail fun _ here => here

/-- A driver has the address of its device, and the calls since the log was as it is given are of
some kind. -/
def Drives (log : σ → List ν) (note : BusCall → ν) (earlier : List ν) (code : Address)
    (kind : List BusCall → Prop) (state : BatteryMonitor × σ) : Prop :=
  state.1.address = code ∧ Heard log note earlier kind state.2

omit notes in
/-- What a battery monitor does on its line, after it is known. -/
theorem leads_line {kind wanted broken : List BusCall → Prop} {action : Action σ (BusError ε) α}
    (leads : Leads (Heard log note earlier kind) action (fun _ => Heard log note earlier wanted)
      (Heard log note earlier broken)) :
    Leads (Drives log note earlier code kind) (Action.onSecond action)
      (fun _ => Drives log note earlier code wanted) (Drives log note earlier code broken) :=
  Action.leads_onSecond (fun kept : BatteryMonitor => kept.address = code) leads

/-- A battery monitor is read by its driver. -/
theorem leads_refresh :
    Leads (Drives log note earlier code (Talks code 9)) (BatteryMonitor.refresh master)
      (fun _ => Drives log note earlier code (Selects code))
      (Drives log note earlier code (Addresses code)) := by
  refine Action.leads_current_bind ?_
  rintro ⟨driver, line⟩ ⟨rfl, heard⟩
  refine Action.leads_bind (fun _ => Drives log note earlier driver.address
    (Selects driver.address)) ?_ fun _ => Action.leads_update fun _ here => here
  have begins : ∀ state, state = (driver, line) →
      Drives log note earlier driver.address (Talks driver.address 9) state := by
    rintro _ rfl
    exact ⟨rfl, heard⟩
  refine Leads.of_imp (leads_line ?_) begins
  refine Action.leads_bind _ notes.leads_select fun _ => ?_
  refine Action.leads_bind _ (leads_of_keeps (notes.keeps_bytes _)) fun _ => ?_
  exact (notes.leads_read _).of_imp fun _ here => here.mono fun _ selects => selects.1

theorem leads_program {driver : BatteryMonitor} (own : driver.address = code) :
    Leads (Heard log note earlier (Talks code 9)) (BatteryMonitor.program master driver)
      (fun _ => Heard log note earlier (Selects code))
      (Heard log note earlier (Addresses code)) := by
  subst own
  refine Action.leads_bind _ notes.leads_select fun _ => ?_
  refine Action.leads_bind _ (leads_of_keeps (notes.keeps_bytes _)) fun _ => ?_
  refine Action.leads_bind _ (leads_of_keeps (notes.keeps_bytes _)) fun _ => ?_
  exact (notes.leads_selected (notes.keeps_bytes _)).of_imp fun _ here =>
    here.mono fun _ selects => selects.1

/-- The device is selected anew for its conversion, and the conversion is the last call. -/
theorem leads_convert :
    Leads (Heard log note earlier (Talks code 9))
      (do
        master.select (some code)
        master.writeByte FunctionCommand.convertVoltage.code)
      (fun _ => Heard log note earlier (Converts code)) (Heard log note earlier (Addresses code)) :=
  Action.leads_bind _ notes.leads_select fun _ =>
    notes.leads_writeByte (fun calls selects => ⟨calls, rfl, selects⟩) fun _ selects =>
      Selects.addresses (selects.speaks nofun)

theorem leads_sampleVoltage (supply : Bool) :
    Leads (Drives log note earlier code (Talks code 9))
      (BatteryMonitor.sampleVoltage master supply)
      (fun _ => Drives log note earlier code (Converts code))
      (Drives log note earlier code (Addresses code)) := by
  refine Action.leads_bind _ notes.leads_refresh fun _ => ?_
  refine Action.leads_current_bind ?_
  rintro ⟨⟨address, page⟩, line⟩ ⟨own, heard⟩
  obtain rfl : address = code := own
  have begun : Heard log note earlier (Talks address 9) line :=
    heard.mono fun _ selects => selects.1
  dsimp only
  split
  · refine Action.leads_bind (fun _ => Drives log note earlier address (Talks address 9))
      (Action.leads_update ?_) fun _ => ?_
    · rintro _ rfl
      exact ⟨rfl, begun⟩
    · refine Action.leads_bind _ (leads_line (notes.leads_program rfl)) fun _ => ?_
      exact (leads_line notes.leads_convert).of_imp fun _ here =>
        ⟨here.1, here.2.mono fun _ selects => selects.1⟩
  · refine (leads_line notes.leads_convert).of_imp ?_
    rintro _ rfl
    exact ⟨rfl, begun⟩

/-- **The conversion of a voltage** is started by calls to its device only, the last of which starts
it. A driver that cannot do that leaves the line alone. -/
theorem leads_sample {quantity : Quantity} (voltage : quantity ≠ .temperature) (line : σ) :
    Leads (fun state : Device × σ => state.1.address = code ∧ state.2 = line)
      (Device.sample master quantity)
      (fun _ state => Heard log note (log line) (Converts code) state.2)
      fun state => state.2 = line ∨ Heard log note (log line) (Addresses code) state.2 := by
  refine Device.leads_sample (fun _ here => .inl here.2)
    (fun temperature => absurd temperature voltage) ?_
  rintro supply _ channel driver _ ⟨own, rfl⟩
  refine ((notes.leads_sampleVoltage supply).mono (fun _ _ here => here.2)
    fun _ here => .inr here.2).of_imp ?_
  rintro _ rfl
  exact ⟨own, [], .silent, rfl⟩

end Talk

end Master.Notes

end WireBridge
