/-
**What a chip is asked for as a bus master.**

Every request to a bus master is made of primitives, and every primitive of a chip begins with a
1-Wire command, for which the chip has to be configured.

* `Master.Request`: the primitives and the sequences made of them;
* `Master.Request.opening`: the first 1-Wire command that a chip gets for a request;
* `Chip.refuses_run`: **without a configuration** a request fails before it does anything;
* `Chip.opens_run`: otherwise it begins with its first command;
* `Chip.spares_master`: what no 1-Wire command ends, no request ends.
-/

import WireBridge.Proofs.Chip.Configured
import WireBridge.Proofs.Device.Sparing

namespace WireBridge

open WireBridge.Action (Leads Keeps)

variable {σ ε α β : Type}

/-! ### Requests to a bus master -/

/-- An action without its result. -/
def Action.done (action : Action σ ε α) : Action σ ε Unit := do
  let _ ← action
  pure ()

/-- What a bus master is asked for: a primitive, or one of the sequences made of them. -/
inductive Master.Request where
  | reset
  | writeByte (byte : UInt8)
  | readByte
  | writeBit (value : Bool)
  | readBit
  | readTriplet (direction : Bool)
  | readBytes (count : Nat)
  | writeBytes (bytes : List UInt8)
  | readCode
  | writeCode (code : Address)
  | select (target : Option Address)

namespace Master.Request

/-- What comes of a request. -/
def run (master : Master σ ε) : Request → Action σ (BusError ε) Unit
  | .reset => master.reset.done
  | .writeByte byte => master.writeByte byte
  | .readByte => master.readByte.done
  | .writeBit value => master.writeBit value
  | .readBit => master.readBit.done
  | .readTriplet direction => (master.readTriplet direction).done
  | .readBytes count => (master.readBytes count).done
  | .writeBytes bytes => master.writeBytes bytes
  | .readCode => master.readCode.done
  | .writeCode code => master.writeCode code
  | .select target => master.select target

/-- The first 1-Wire command that a chip gets for a request. None is needed to read or write no
bytes. -/
def opening : Request → Option (List UInt8)
  | .reset => some [0xb4]
  | .writeByte byte => some [0xa5, byte]
  | .readByte => some [0x96]
  | .writeBit value => some [0x87, Chip.bitByte value]
  | .readBit => some [0x87, 0x80]
  | .readTriplet direction => some [0x78, Chip.bitByte direction]
  | .readBytes count => if count = 0 then none else some [0x96]
  | .writeBytes bytes => bytes.head?.map fun byte => [0xa5, byte]
  | .readCode => some [0x96]
  | .writeCode code => code.bytes.head?.map fun byte => [0xa5, byte]
  | .select _ => some [0xb4]

end Master.Request

/-- Every primitive keeps a property, so each request does. -/
theorem Master.Spares.keeps_run {master : Master σ ε} {kept : σ → Prop}
    (spares : master.Spares kept) (request : Master.Request) : Keeps kept (request.run master) := by
  have done {γ : Type} {action : Action σ (BusError ε) γ} (keeps : Keeps kept action) :
      Keeps kept action.done :=
    Action.leads_bind _ keeps fun _ => Action.leads_pure fun _ here => here
  cases request with
  | reset => exact done spares.reset
  | writeByte byte => exact spares.writeByte byte
  | readByte => exact done spares.readByte
  | writeBit value => exact spares.writeBit value
  | readBit => exact done spares.readBit
  | readTriplet direction => exact done (spares.readTriplet direction)
  | readBytes count => exact done (Action.keeps_collect spares.readByte count)
  | writeBytes bytes => exact spares.keeps_writeBytes bytes
  | readCode =>
    exact done (Action.leads_bind _ (Action.keeps_collect spares.readByte 8) fun _ =>
      Action.leads_pure fun _ here => here)
  | writeCode code => exact spares.keeps_writeBytes code.bytes
  | select target => exact spares.keeps_select target

namespace Chip

variable {link : ChipLink σ ε}

/-! ### 1-Wire commands -/

/-- What no read of a register and no pause ends. -/
structure Unread (kept : Chip → List Note → Prop) : Prop where
  read : ∀ chip notes answer, kept chip notes → kept chip (.read 0x18 1 answer :: notes)
  fetch : ∀ chip notes answer, kept chip notes →
    kept chip (.writeRead 0x18 [0xe1, 0xe1] 1 answer :: notes)
  pause : ∀ chip notes time, kept chip notes → kept chip (.pause time :: notes)

/-- A command is written to a chip that is configured, and to no other. -/
theorem leads_command {start kept : Chip → List Note → Prop} (unread : Unread kept)
    (bytes : List UInt8)
    (refused : ∀ chip notes, start chip notes → chip.unconfigured = true → kept chip notes)
    (written : ∀ chip notes result, start chip notes → chip.unconfigured = false →
      kept chip (.write 0x18 bytes result :: notes)) :
    Leads (Held start) (command link.noted bytes) (fun _ => Held kept) (Held kept) := by
  refine Action.leads_current_bind fun state here => ?_
  obtain ⟨chip, line, notes⟩ := state
  cases known : chip.unconfigured with
  | true =>
    simp only [known, if_true]
    exact Action.leads_fail fun _ same => same ▸ refused chip notes here known
  | false =>
    simp only [known, if_false, Bool.false_eq_true]
    have sent : Leads
        (Held fun chip notes => start chip notes ∧ chip.unconfigured = false)
        (do
          transfer (link.noted.bus.write address bytes)
          await link.noted fun status => !status.busy)
        (fun _ => Held kept) (Held kept) := by
      refine Action.leads_bind (fun _ => Held kept)
        (leads_transfer _ _ (fun chip notes _ ⟨here, known⟩ => written chip notes _ here known)
          fun chip notes ⟨here, known⟩ => written chip notes none here known) fun _ => ?_
      exact Action.leads_current_bind fun state here =>
        (keeps_poll unread.read unread.pause _ _).of_imp fun _ same => same ▸ here
    exact Action.leads_mapError (sent.of_imp fun _ same => same ▸ ⟨here, known⟩)

/-- Every primitive keeps what no command ends. -/
theorem spares_master {kept : Chip → List Note → Prop} (unread : Unread kept)
    (written : ∀ chip notes bytes result, isLineCommand bytes = true → kept chip notes →
      chip.unconfigured = false → kept chip (.write 0x18 bytes result :: notes)) :
    (master link.noted).Spares (Held kept) := by
  have commands {γ : Type} (bytes : List UInt8) (known : isLineCommand bytes = true)
      (next : ChipStatus → Action (Chip × (σ × List Note)) (BusError (ChipError ε)) γ)
      (rest : ∀ status, Keeps (Held kept) (next status)) :
      Keeps (Held kept) (command link.noted bytes >>= next) :=
    Action.leads_bind _ (leads_command unread bytes (fun _ _ here _ => here)
      fun chip notes result => written chip notes bytes result known) rest
  constructor
  · exact commands _ rfl _ fun status =>
      Action.leads_ofExcept (fun _ _ _ here => here) fun _ here => here
  · exact fun byte => commands _ rfl _ fun _ => Action.leads_pure fun _ here => here
  · refine commands _ rfl _ fun _ => Action.leads_bind _ (Action.leads_mapError ?_) fun _ =>
      Action.leads_pure fun _ here => here
    exact keeps_transfer _ _ unread.fetch
  · exact fun value => commands _ rfl _ fun _ => Action.leads_pure fun _ here => here
  · exact commands _ rfl _ fun _ => Action.leads_pure fun _ here => here
  · exact fun direction => commands _ rfl _ fun _ => Action.leads_pure fun _ here => here

/-! ### A chip that is not configured -/

section Refused

variable {state : Chip × σ} (unset : state.1.unconfigured = true)

/-- An action fails before it does anything, because the chip is not configured. -/
def Refuses (state : Chip × σ) (action : Action (Chip × σ) (BusError (ChipError ε)) α) : Prop :=
  action.perform state = (.error .busUninitialized, state)

theorem Refuses.bind {action : Action (Chip × σ) (BusError (ChipError ε)) α}
    (refuses : Refuses state action) (next : α → Action (Chip × σ) (BusError (ChipError ε)) β) :
    Refuses state (action >>= next) := by
  rw [Refuses, Action.perform_bind, refuses]

include unset

theorem refuses_command (bytes : List UInt8) : Refuses state (command link bytes) := by
  obtain ⟨chip, line⟩ := state
  rw [Refuses, command, Action.perform_current_bind]
  simp only [show chip.unconfigured = true from unset, if_true]
  rfl

theorem refuses_readBytes (count : Nat) : Refuses state ((master link).readBytes (count + 1)) := by
  have byte : Refuses state (master link).readByte := (refuses_command unset _).bind _
  induction count with
  | zero => exact byte.bind _
  | succ count ih => exact ih.bind _

theorem refuses_writeBytes (byte : UInt8) (rest : List UInt8) :
    Refuses state ((master link).writeBytes (byte :: rest)) :=
  ((refuses_command unset _).bind _).bind _

/-- What needs a command fails. -/
theorem refuses_run {request : Master.Request} {bytes : List UInt8}
    (opens : request.opening = some bytes) : Refuses state (request.run (master link)) := by
  have command (bytes : List UInt8) : Refuses state (command link bytes) :=
    refuses_command unset bytes
  have written {bytes opening : List UInt8}
      (opens : (bytes.head?.map fun byte => [0xa5, byte]) = some opening) :
      Refuses state ((master link).writeBytes bytes) := by
    cases bytes with
    | nil => exact nomatch opens
    | cons byte rest => exact refuses_writeBytes unset byte rest
  cases request with
  | reset => exact ((command _).bind _).bind _
  | writeByte byte => exact (command _).bind _
  | readByte => exact ((command _).bind _).bind _
  | writeBit value => exact (command _).bind _
  | readBit => exact ((command _).bind _).bind _
  | readTriplet direction => exact ((command _).bind _).bind _
  | readBytes count =>
    cases count with
    | zero => exact nomatch opens
    | succ count => exact (refuses_readBytes unset count).bind _
  | writeBytes bytes => exact written opens
  | readCode => exact ((refuses_readBytes unset 7).bind _).bind _
  | writeCode code => exact written opens
  | select target => exact (((command _).bind _).bind _).bind _

end Refused

/-- What needs no command does nothing. -/
theorem run_idle {request : Master.Request} (idle : request.opening = none) (state : Chip × σ) :
    (request.run (master link)).perform state = (.ok (), state) := by
  have unwritten {bytes : List UInt8} (none : (bytes.head?.map fun byte => [0xa5, byte]) = none) :
      ((master link).writeBytes bytes).perform state = (.ok (), state) := by
    cases bytes with
    | nil => rfl
    | cons byte rest => exact nomatch none
  cases request with
  | readBytes count =>
    cases count with
    | zero => rfl
    | succ count => exact nomatch idle
  | writeBytes bytes => exact unwritten idle
  | writeCode code => exact unwritten idle
  | _ => exact nomatch idle

/-! ### A chip that is configured -/

/-- The first thing that happened is that some bytes were written. -/
def Opened (bytes : List UInt8) (_ : Chip) (notes : List Note) : Prop :=
  ∃ result, notes.getLast? = some (.write 0x18 bytes result)

theorem Opened.cons {bytes : List UInt8} {chip : Chip} {notes : List Note} {note : Note}
    (opened : Opened bytes chip notes) : Opened bytes chip (note :: notes) := by
  obtain ⟨result, first⟩ := opened
  exact ⟨result, by rw [List.getLast?_cons, first]; rfl⟩

/-- The chip is configured, and nothing happened yet. -/
def Ready (chip : Chip) (notes : List Note) : Prop := chip.unconfigured = false ∧ notes = []

/-- An action first writes some bytes to a chip that is configured. -/
def Opens (bytes : List UInt8)
    (action : Action (Chip × (σ × List Note)) (BusError (ChipError ε)) α) : Prop :=
  Leads (Held Ready) action (fun _ => Held (Opened bytes)) (Held (Opened bytes))

theorem Opens.bind {bytes : List UInt8}
    {action : Action (Chip × (σ × List Note)) (BusError (ChipError ε)) α}
    {next : α → Action (Chip × (σ × List Note)) (BusError (ChipError ε)) β}
    (opens : Opens bytes action) (rest : ∀ value, Keeps (Held (Opened bytes)) (next value)) :
    Opens bytes (action >>= next) :=
  Action.leads_bind _ opens rest

theorem Opens.done {bytes : List UInt8}
    {action : Action (Chip × (σ × List Note)) (BusError (ChipError ε)) α}
    (opens : Opens bytes action) : Opens bytes action.done :=
  opens.bind fun _ => Action.leads_pure fun _ here => here

theorem opens_command (bytes : List UInt8) : Opens bytes (command link.noted bytes) := by
  refine leads_command ⟨?_, ?_, ?_⟩ bytes ?_ ?_
  · exact fun _ _ _ opened => opened.cons
  · exact fun _ _ _ opened => opened.cons
  · exact fun _ _ _ opened => opened.cons
  · exact fun chip notes ready unset => absurd ready.1 (by simp [unset])
  · exact fun chip notes result ready _ => ⟨result, by rw [ready.2]; rfl⟩

theorem spares_opened (bytes : List UInt8) : (master link.noted).Spares (Held (Opened bytes)) :=
  spares_master ⟨fun _ _ _ opened => opened.cons, fun _ _ _ opened => opened.cons,
    fun _ _ _ opened => opened.cons⟩ fun _ _ _ _ _ opened _ => opened.cons

theorem opens_reset : Opens [0xb4] (master link.noted).reset :=
  (opens_command _).bind fun _ =>
    Action.leads_ofExcept (fun _ _ _ here => here) fun _ here => here

theorem opens_writeByte (byte : UInt8) : Opens [0xa5, byte] ((master link.noted).writeByte byte) :=
  (opens_command _).bind fun _ => Action.leads_pure fun _ here => here

theorem opens_readByte : Opens [0x96] (master link.noted).readByte := by
  refine (opens_command _).bind fun _ => Action.leads_bind _ (Action.leads_mapError ?_) fun _ =>
    Action.leads_pure fun _ here => here
  exact leads_register _ _ (fun _ _ _ opened => opened.cons) fun _ _ opened => opened.cons

theorem opens_readBytes (count : Nat) :
    Opens [0x96] ((master link.noted).readBytes (count + 1)) := by
  have rest (count : Nat) (earlier : Vector UInt8 count) : Keeps (Held (Opened [0x96]))
      (do
        let last ← (master link.noted).readByte
        pure (earlier.push last)) :=
    Action.leads_bind _ (spares_opened _).readByte fun _ => Action.leads_pure fun _ here => here
  induction count with
  | zero => exact opens_readByte.bind fun _ => Action.leads_pure fun _ here => here
  | succ count ih => exact ih.bind (rest _)

theorem opens_writeBytes {bytes opening : List UInt8}
    (opens : (bytes.head?.map fun byte => [0xa5, byte]) = some opening) :
    Opens opening ((master link.noted).writeBytes bytes) := by
  cases bytes with
  | nil => exact nomatch opens
  | cons byte rest =>
    obtain rfl := Option.some.inj opens
    exact (opens_writeByte byte).bind fun _ => (spares_opened _).keeps_writeBytes rest

/-- What needs a command begins with it. -/
theorem opens_run (link : ChipLink σ ε) {request : Master.Request} {bytes : List UInt8}
    (opens : request.opening = some bytes) : Opens bytes (request.run (master link.noted)) := by
  cases request with
  | reset =>
    obtain rfl := Option.some.inj opens
    exact opens_reset.done
  | writeByte byte =>
    obtain rfl := Option.some.inj opens
    exact opens_writeByte byte
  | readByte =>
    obtain rfl := Option.some.inj opens
    exact opens_readByte.done
  | writeBit value =>
    obtain rfl := Option.some.inj opens
    exact (opens_command _).done
  | readBit =>
    obtain rfl := Option.some.inj opens
    exact ((opens_command _).bind fun _ => Action.leads_pure fun _ here => here).done
  | readTriplet direction =>
    obtain rfl := Option.some.inj opens
    exact ((opens_command _).bind fun _ => Action.leads_pure fun _ here => here).done
  | readBytes count =>
    cases count with
    | zero => exact nomatch opens
    | succ count =>
      obtain rfl := Option.some.inj opens
      exact (opens_readBytes count).done
  | writeBytes bytes => exact opens_writeBytes opens
  | readCode =>
    obtain rfl := Option.some.inj opens
    exact ((opens_readBytes 7).bind fun _ => Action.leads_pure fun _ here => here).done
  | writeCode code => exact opens_writeBytes opens
  | select target =>
    obtain rfl := Option.some.inj opens
    have strict : Opens [0xb4] (master link.noted).strict.reset := opens_reset.bind fun _ =>
      Action.leads_ofExcept (fun _ _ _ here => here) fun _ here => here
    refine strict.bind fun _ => ?_
    cases target with
    | none => exact (spares_opened _).writeByte _
    | some code =>
      exact Action.leads_bind _ ((spares_opened _).writeByte _) fun _ =>
        (spares_opened _).keeps_writeBytes code.bytes

end Chip

end WireBridge
