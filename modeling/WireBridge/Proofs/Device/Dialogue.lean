/-
**Dialogues with one device.**

A driver talks to its device in exchanges. For each of them it resets the line and selects the
device by its code; then it writes some bytes and reads some.

* `Exchange`: what is written to a device, and what it answers;
* `BusCall.Dialogue`: the calls of exchanges, in order, none of which failed;
* `BusCall.Interrupted`: calls the last of which failed, or was a reset that nobody answered;
* `Master.Notes.says_select`, `Master.Notes.says_writeBytes`, `Master.Notes.says_readBytes`: the
  parts of an exchange;
* `Master.Notes.says_read`: **a scratchpad that is read** was answered in the last exchange and fits
  its check.
-/

import WireBridge.Proofs.Device.Talking

namespace WireBridge

open WireBridge.Action (Leads Keeps)

variable {σ ε ν α : Type}

/-! ### Calls -/

/-- What is written to a device after it was selected, and what it answers. -/
structure Exchange where
  written : List UInt8
  answered : List UInt8 := []
deriving DecidableEq

namespace BusCall

/-- The calls of one exchange: a reset that shows a status, and the bytes after it. -/
def speech (status : ResetStatus) (written answered : List UInt8) : List BusCall :=
  .reset (some status) :: written.map (fun byte => .writeByte byte (some ())) ++
    answered.map fun byte => .readByte (some byte)

/-- The calls of exchanges with one device, in order. Each begins with a reset that is answered,
Match ROM and the code of the device. -/
inductive Dialogue (code : Address) : List Exchange → List BusCall → Prop
  | silent : Dialogue code [] []
  | speaks {said : List Exchange} {calls : List BusCall} (before : Dialogue code said calls)
      {status : ResetStatus} (answered : status.shortCircuit = false ∧ status.presence = true)
      (exchange : Exchange) :
      Dialogue code (said ++ [exchange])
        (calls ++ speech status (selection code ++ exchange.written) exchange.answered)

/-- The call failed, or was a reset that nobody answered. -/
def failed : BusCall → Bool
  | .reset none => true
  | .reset (some status) => status.shortCircuit || !status.presence
  | .writeByte _ result => result.isNone
  | .readByte byte => byte.isNone
  | .writeBit _ result => result.isNone
  | .readBit bit => bit.isNone
  | .readTriplet _ triplet => triplet.isNone

/-- Calls the last of which failed. -/
def Interrupted (calls : List BusCall) : Prop := calls.getLast?.any failed = true

/-- Calls of an exchange that is going on after some others, with all bytes since its reset. -/
def Speaking (code : Address) (said : List Exchange) (written answered : List UInt8)
    (calls : List BusCall) : Prop :=
  ∃ before status, Dialogue code said before ∧
    (status.shortCircuit = false ∧ status.presence = true) ∧
    calls = before ++ speech status written answered

theorem Speaking.writes {code : Address} {said : List Exchange} {written : List UInt8}
    {calls : List BusCall} (speaking : Speaking code said written [] calls) (byte : UInt8) :
    Speaking code said (written ++ [byte]) [] (calls ++ [.writeByte byte (some ())]) := by
  obtain ⟨before, status, dialogue, answered, rfl⟩ := speaking
  exact ⟨before, status, dialogue, answered, by simp [speech]⟩

theorem Speaking.reads {code : Address} {said : List Exchange} {written answered : List UInt8}
    {calls : List BusCall} (speaking : Speaking code said written answered calls) (byte : UInt8) :
    Speaking code said written (answered ++ [byte]) (calls ++ [.readByte (some byte)]) := by
  obtain ⟨before, status, dialogue, present, rfl⟩ := speaking
  exact ⟨before, status, dialogue, present, by simp [speech]⟩

/-- An exchange ends when nothing more is written or read. -/
theorem Speaking.ends {code : Address} {said : List Exchange} {written answered : List UInt8}
    {calls : List BusCall}
    (speaking : Speaking code said (selection code ++ written) answered calls) :
    Dialogue code (said ++ [⟨written, answered⟩]) calls := by
  obtain ⟨before, status, dialogue, present, rfl⟩ := speaking
  exact .speaks dialogue present ⟨written, answered⟩

theorem interrupted_reverse {call : BusCall} (calls : List BusCall) (failed : call.failed = true) :
    Interrupted (call :: calls).reverse := by
  rw [Interrupted, List.getLast?_reverse]
  exact failed

end BusCall

open BusCall (Dialogue Interrupted Speaking selection)

namespace Master.Notes

variable {master : Master σ ε} {log : σ → List ν} {note : BusCall → ν} {earlier : List ν}
  {code : Address} {said : List Exchange}

/-- The calls since the log was as it is given are those of a dialogue. -/
def Says (log : σ → List ν) (note : BusCall → ν) (earlier : List ν) (code : Address)
    (said : List Exchange) : σ → Prop :=
  Heard log note earlier fun calls => Dialogue code said calls.reverse

/-- The calls since then are those of a dialogue and of a part of an exchange. -/
def Tells (log : σ → List ν) (note : BusCall → ν) (earlier : List ν) (code : Address)
    (said : List Exchange) (written answered : List UInt8) : σ → Prop :=
  Heard log note earlier fun calls => Speaking code said written answered calls.reverse

/-- The last call failed. -/
def Stops (log : σ → List ν) (note : BusCall → ν) (earlier : List ν) : σ → Prop :=
  Heard log note earlier fun calls => Interrupted calls.reverse

theorem Tells.ends {written answered : List UInt8} {state : σ}
    (tells : Tells log note earlier code said (selection code ++ written) answered state) :
    Says log note earlier code (said ++ [⟨written, answered⟩]) state :=
  Heard.mono tells fun _ speaking => speaking.ends

section Parts

variable (notes : master.Notes log note)

include notes

theorem says_writeByte (written : List UInt8) (byte : UInt8) :
    Leads (Tells log note earlier code said written []) (master.writeByte byte)
      (fun _ => Tells log note earlier code said (written ++ [byte]) [])
      (Stops log note earlier) := by
  refine notes.leads_writeByte (fun calls speaking => ?_)
    fun calls _ => BusCall.interrupted_reverse calls rfl
  rw [List.reverse_cons]
  exact speaking.writes byte

theorem says_writeBytes (written bytes : List UInt8) :
    Leads (Tells log note earlier code said written []) (master.writeBytes bytes)
      (fun _ => Tells log note earlier code said (written ++ bytes) [])
      (Stops log note earlier) := by
  induction bytes generalizing written with
  | nil =>
    rw [List.append_nil]
    exact Action.leads_pure fun _ here => here
  | cons byte rest ih =>
    rw [List.append_cons]
    exact Action.leads_bind _ (notes.says_writeByte written byte) fun _ => ih (written ++ [byte])

theorem says_readByte (written answered : List UInt8) :
    Leads (Tells log note earlier code said written answered) master.readByte
      (fun byte => Tells log note earlier code said written (answered ++ [byte]))
      (Stops log note earlier) := by
  rintro state ⟨calls, speaking, same⟩
  have noted := notes.readByte state
  rw [same] at noted
  generalize master.readByte.perform state = performed at noted ⊢
  obtain ⟨error | byte, reached⟩ := performed
  · exact ⟨_, BusCall.interrupted_reverse calls rfl, noted⟩
  · refine ⟨.readByte (some byte) :: calls, ?_, noted⟩
    dsimp only
    rw [List.reverse_cons]
    exact speaking.reads byte

theorem says_readBytes (written : List UInt8) (count : Nat) :
    Leads (Tells log note earlier code said written []) (master.readBytes count)
      (fun bytes => Tells log note earlier code said written bytes.toList)
      (Stops log note earlier) := by
  induction count with
  | zero => exact Action.leads_pure fun _ here => here
  | succ before ih =>
    refine Action.leads_bind _ ih fun bytes => ?_
    refine Action.leads_bind _ (notes.says_readByte written bytes.toList) fun byte => ?_
    refine Action.leads_pure fun state here => ?_
    rw [Vector.toList_push]
    exact here

/-- The device is selected. -/
theorem says_select :
    Leads (Says log note earlier code said) (master.select (some code))
      (fun _ => Tells log note earlier code said (selection code) []) (Stops log note earlier) := by
  refine Action.leads_bind (fun _ => Tells log note earlier code said [] [])
    (notes.leads_strict ?_ ?_ ?_) fun _ => notes.says_writeBytes [] (selection code)
  · intro status calls dialogue short presence
    refine ⟨calls.reverse, status, dialogue, ⟨short, presence⟩, ?_⟩
    rw [List.reverse_cons]
    rfl
  · rintro status calls _ silent
    refine BusCall.interrupted_reverse calls ?_
    rcases silent with short | absent
    · exact Bool.or_eq_true_iff.mpr (.inl short)
    · exact Bool.or_eq_true_iff.mpr (.inr (by rw [absent]; rfl))
  · exact fun calls _ => BusCall.interrupted_reverse calls rfl

/-- An exchange in which the device does not answer. -/
theorem says_written (bytes : List UInt8) :
    Leads (Says log note earlier code said)
      (do
        master.select (some code)
        master.writeBytes bytes)
      (fun _ => Says log note earlier code (said ++ [⟨bytes, []⟩])) (Stops log note earlier) :=
  Action.leads_bind _ notes.says_select fun _ =>
    (notes.says_writeBytes (selection code) bytes).mono (fun _ _ tells => tells.ends)
      fun _ stops => stops

theorem says_command (byte : UInt8) :
    Leads (Says log note earlier code said)
      (do
        master.select (some code)
        master.writeByte byte)
      (fun _ => Says log note earlier code (said ++ [⟨[byte], []⟩])) (Stops log note earlier) :=
  Action.leads_bind _ notes.says_select fun _ =>
    (notes.says_writeByte (selection code) byte).mono (fun _ _ tells => tells.ends)
      fun _ stops => stops

/-- The last call failed, or the calls since then are those of a dialogue that ended with nine bytes
that do not fit their check. -/
def Fails (log : σ → List ν) (note : BusCall → ν) (earlier : List ν) (code : Address)
    (asked : Scratchpad → List Exchange) (state : σ) : Prop :=
  Stops log note earlier state ∨
    ∃ page : Scratchpad, Crc.valid page.toList = false ∧
      Says log note earlier code (asked page) state

/-- **A scratchpad** is what was read last, and fits its check. -/
theorem says_read (command : List UInt8) :
    Leads (Says log note earlier code said) (Scratchpad.read master code command)
      (fun page state => Crc.valid page.toList = true ∧
        Says log note earlier code (said ++ [⟨command, page.toList⟩]) state)
      (Fails log note earlier code fun page => said ++ [⟨command, page.toList⟩]) := by
  refine Action.leads_bind _ (notes.says_select.mono (fun _ _ tells => tells) fun _ => .inl)
    fun _ => ?_
  refine Action.leads_bind _ ((notes.says_writeBytes (selection code) command).mono
    (fun _ _ tells => tells) fun _ => .inl) fun _ => ?_
  refine Action.leads_bind _ ((notes.says_readBytes (selection code ++ command) 9).mono
    (fun _ _ tells => tells.ends) fun _ => .inl) fun page => ?_
  split
  · next fits => exact Action.leads_pure fun _ spoken => ⟨fits, spoken⟩
  · next unfit =>
    exact Action.leads_fail fun _ spoken => .inr ⟨page, Bool.eq_false_iff.mpr unfit, spoken⟩

end Parts

end Master.Notes

end WireBridge
