/-
**What happened on the way to a bridge chip.**

* `Chip.Note`: a transfer with its answer, or a pause;
* `ChipLink.noted`: a link with a list of notes, the latest first. It behaves as it would without;
* `Chip.keeps_poll_of`, `Chip.keeps_readPort_of`, `Chip.keeps_correctPort_of`: what a sequence keeps
  because each transfer of it does, on any link;
* `Chip.leads_transfer`: **one transfer adds one note**, and changes nothing that the driver knows;
* `Chip.keeps_resetChip`: what no reset of the chip ends.
-/

import WireBridge.Bus.Trace
import WireBridge.Chip.Basic
import WireBridge.Proofs.Action

namespace WireBridge

open WireBridge.Action (Leads Keeps)

namespace Chip

/-- A transfer with what was answered, or nothing if it failed, or a pause. -/
inductive Note where
  | read (peer : I2c.PeerAddress) (count : Nat) (answer : Option (Vector UInt8 count))
  | write (peer : I2c.PeerAddress) (bytes : List UInt8) (result : Option Unit)
  | writeRead (peer : I2c.PeerAddress) (bytes : List UInt8) (count : Nat)
      (answer : Option (Vector UInt8 count))
  | transaction (peer : I2c.PeerAddress) (operations : List I2c.Operation)
      (answers : Option (List (List UInt8)))
  | pause (milliseconds : Nat)
deriving DecidableEq

end Chip

/-- The link with a list of notes. -/
def ChipLink.noted {σ ε : Type} (link : ChipLink σ ε) : ChipLink (σ × List Chip.Note) ε where
  bus := {
    read peer count := (link.bus.read peer count).noted (.read peer count)
    write peer bytes := (link.bus.write peer bytes).noted (.write peer bytes)
    writeRead peer bytes count :=
      (link.bus.writeRead peer bytes count).noted (.writeRead peer bytes count)
    transaction peer operations :=
      (link.bus.transaction peer operations).noted (.transaction peer operations) }
  pause milliseconds state :=
    (link.pause milliseconds state.1, .pause milliseconds :: state.2)

namespace Chip

variable {σ ε α : Type} {link : ChipLink σ ε}

/-! ### Sequences of transfers -/

section Sequences

variable {kept : Chip × σ → Prop}

theorem keeps_poll_of (reads : Keeps kept (transfer (link.bus.read 0x18 1)))
    (pauses : ∀ chip line time, kept (chip, line) → kept (chip, link.pause time line))
    (done : ChipStatus → Bool) (left : Nat) : Keeps kept (poll link done left) := by
  induction left with
  | zero => exact Action.leads_fail fun _ here => here
  | succ left ih =>
    refine Action.leads_bind _ reads fun bytes => ?_
    split
    · exact Action.leads_pure fun _ here => here
    · exact Action.leads_bind (fun _ => kept)
        (Action.leads_update fun _ here => pauses _ _ _ here) fun _ => ih

theorem keeps_readPort_of (fetches : Keeps kept (register link 0xb4 8)) :
    Keeps kept (readPort link) :=
  Action.leads_bind _ fetches fun _ => Action.leads_pure fun _ here => here

theorem keeps_correctPort_of
    (adjusts : ∀ bytes, Keeps kept (transfer (link.bus.write 0x18 (0xc3 :: bytes))))
    (fetches : Keeps kept (register link 0xb4 8)) (wanted current : PortCodes) :
    Keeps kept (correctPort link wanted current) := by
  unfold correctPort
  dsimp only
  split
  · exact Action.leads_pure fun _ here => here
  · refine Action.leads_bind _ (adjusts _) fun _ => ?_
    refine Action.leads_bind _ (keeps_readPort_of fetches) fun confirmed => ?_
    split
    · exact Action.leads_pure fun _ here => here
    · exact Action.leads_fail fun _ here => here

end Sequences

/-! ### Transfers with notes -/

/-- What the driver knows and what was noted. -/
def Held (kind : Chip → List Note → Prop) (state : Chip × (σ × List Note)) : Prop :=
  kind state.1 state.2.2

/-- **One transfer adds one note**, and changes nothing that the driver knows. -/
theorem leads_transfer {before broken : Chip → List Note → Prop}
    {after : α → Chip → List Note → Prop} (action : Action σ ε α) (note : Option α → Note)
    (answered : ∀ chip notes value, before chip notes →
      after value chip (note (some value) :: notes))
    (failed : ∀ chip notes, before chip notes → broken chip (note none :: notes)) :
    Leads (Held before) (transfer (action.noted note)) (fun value => Held (after value))
      (Held broken) := by
  rintro ⟨chip, line, notes⟩ here
  unfold transfer
  rw [Action.perform_onSecond, Action.perform_mapError, Action.noted_perform]
  generalize action.perform line = performed
  rcases performed with ⟨error | value, reached⟩
  · exact failed chip notes here
  · exact answered chip notes value here

/-- What the note of a transfer does not end. -/
theorem keeps_transfer {kept : Chip → List Note → Prop} (action : Action σ ε α)
    (note : Option α → Note)
    (noted : ∀ chip notes result, kept chip notes → kept chip (note result :: notes)) :
    Keeps (Held kept) (transfer (action.noted note)) :=
  leads_transfer action note (fun chip notes value => noted chip notes (some value))
    fun chip notes => noted chip notes none

/-- A register is read after its pointer is set. -/
theorem leads_register {before broken : Chip → List Note → Prop} (pointer : UInt8) (count : Nat)
    {after : Vector UInt8 count → Chip → List Note → Prop}
    (answered : ∀ chip notes bytes, before chip notes →
      after bytes chip (.writeRead 0x18 [0xe1, pointer] count (some bytes) :: notes))
    (failed : ∀ chip notes, before chip notes →
      broken chip (.writeRead 0x18 [0xe1, pointer] count none :: notes)) :
    Leads (Held before) (register link.noted pointer count) (fun bytes => Held (after bytes))
      (Held broken) :=
  leads_transfer _ _ answered failed

/-! ### Resets -/

/-- What is kept while the status is read. -/
theorem keeps_poll {kept : Chip → List Note → Prop}
    (reads : ∀ chip notes answer, kept chip notes → kept chip (.read 0x18 1 answer :: notes))
    (pauses : ∀ chip notes time, kept chip notes → kept chip (.pause time :: notes))
    (done : ChipStatus → Bool) (left : Nat) :
    Keeps (Held kept) (poll link.noted done left) :=
  keeps_poll_of (keeps_transfer _ _ reads) (fun _ _ _ here => pauses _ _ _ here) done left

/-- What is kept while the chip is reset. -/
theorem keeps_resetChip {kept : Chip → List Note → Prop}
    (writes : ∀ chip notes result, kept chip notes →
      kept chip (.write 0x18 [0xf0] result :: notes))
    (resets : ∀ chip notes, kept chip notes → kept { chip with unconfigured := true } notes)
    (reads : ∀ chip notes answer, kept chip notes → kept chip (.read 0x18 1 answer :: notes))
    (pauses : ∀ chip notes time, kept chip notes → kept chip (.pause time :: notes)) :
    Keeps (Held kept) (resetChip link.noted) := by
  refine Action.leads_bind _ (keeps_transfer _ _ writes) fun _ => ?_
  refine Action.leads_bind (fun _ => Held kept)
    (Action.leads_update fun _ here => resets _ _ here) fun _ => ?_
  exact Action.leads_current_bind fun state here =>
    (keeps_poll reads pauses _ _).of_imp fun _ same => same ▸ here

end Chip

end WireBridge
