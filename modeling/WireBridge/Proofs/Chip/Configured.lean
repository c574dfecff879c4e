/-
**A driver knows whether its chip is configured.**

The driver keeps one flag about it, which is set when the chip takes a reset and cleared when the
chip echoes a configuration. So the flag always says what the notes about the two-wire bus say.

* `Chip.Configured`: a configuration was echoed, and the chip took no reset since;
* `Chip.Commanded`: each 1-Wire command was written to a configured chip;
* `Chip.Guarded`: the flag agrees with what happened, and all 1-Wire commands did;
* `Chip.keeps_since_resetChip`, `Chip.keeps_since_configure`, `Chip.keeps_since_changePort`: **what
  the chip itself is told keeps this**;
* `Chip.leads_setUp_since`: a chip that was set up is configured.
-/

import WireBridge.Proofs.Chip.Notes

namespace WireBridge

open WireBridge.Action (Leads Keeps)

namespace Chip

variable {σ ε : Type} {link : ChipLink σ ε}

/-! ### What notes tell about the configuration -/

/-- The chip took the command to reset. -/
def Note.resets : Note → Bool
  | .write peer bytes result => peer == 0x18 && bytes == [0xf0] && result.isSome
  | _ => false

/-- A configuration was written, and the chip echoed its four bits. -/
def Note.confirms : Note → Bool
  | .writeRead peer [command, sent] _ (some echo) =>
    peer == 0x18 && command == 0xd2 && echo.toList == [sent &&& 0x0f]
  | _ => false

/-- Bytes that begin with a 1-Wire command: a reset, a byte that is written or read, a single bit or
a triplet. -/
def isLineCommand (bytes : List UInt8) : Bool :=
  bytes.head?.any [0xb4, 0xa5, 0x96, 0x87, 0x78].contains

/-- A 1-Wire command was written, whatever came of it. -/
def Note.commands : Note → Bool
  | .write _ bytes _ => isLineCommand bytes
  | .writeRead _ bytes _ _ => isLineCommand bytes
  | .transaction _ operations _ => operations.any fun
    | .write bytes => isLineCommand bytes
    | .read _ => false
  | _ => false

/-- A configuration was echoed, and the chip took no reset since. -/
def Configured (history : List Note) : Prop :=
  ∃ earlier note later, history = earlier ++ note :: later ∧ note.confirms = true ∧
    ∀ other ∈ later, other.resets = false

/-- Each 1-Wire command was written to a configured chip. -/
def Commanded (history : List Note) : Prop :=
  ∀ sooner note later, history = sooner ++ note :: later → note.commands = true → Configured sooner

theorem configured_concat {history : List Note} {note : Note} :
    Configured (history ++ [note]) ↔
      note.confirms = true ∨ Configured history ∧ note.resets = false := by
  constructor
  · rintro ⟨earlier, found, later, split, confirms, quiet⟩
    rcases Action.concat_eq_split.mp split with ⟨-, rfl, -⟩ | ⟨rest, rfl, same⟩
    · exact .inl confirms
    · refine .inr ⟨⟨earlier, found, rest, same, confirms, fun other member => ?_⟩, ?_⟩
      · exact quiet other (List.mem_append_left _ member)
      · exact quiet note (List.mem_append_right _ (List.mem_singleton_self note))
  · rintro (confirms | ⟨⟨earlier, found, rest, rfl, confirms, quiet⟩, calm⟩)
    · exact ⟨history, note, [], rfl, confirms, nofun⟩
    · refine ⟨earlier, found, rest ++ [note], by simp, confirms, fun other member => ?_⟩
      rcases List.mem_append.mp member with before | last
      · exact quiet other before
      · rw [List.mem_singleton.mp last, calm]

theorem Commanded.concat {history : List Note} {note : Note} (commanded : Commanded history)
    (allowed : note.commands = true → Configured history) : Commanded (history ++ [note]) := by
  intro sooner found later split commands
  rcases Action.concat_eq_split.mp split with ⟨rfl, rfl, -⟩ | ⟨rest, -, same⟩
  · exact allowed commands
  · exact commanded sooner found rest same commands

/-- The flag of a driver agrees with what happened, and so did all 1-Wire commands. -/
structure Guarded (chip : Chip) (history : List Note) : Prop where
  flag : chip.unconfigured = false ↔ Configured history
  commanded : Commanded history

theorem Guarded.noted {chip : Chip} {history : List Note} {note : Note} {unconfigured : Bool}
    (guarded : Guarded chip history)
    (flag : unconfigured = false ↔
      note.confirms = true ∨ chip.unconfigured = false ∧ note.resets = false)
    (allowed : note.commands = true → chip.unconfigured = false) :
    Guarded { chip with unconfigured := unconfigured } (history ++ [note]) where
  flag := by rw [configured_concat, ← guarded.flag]; exact flag
  commanded := guarded.commanded.concat fun commands => guarded.flag.mp (allowed commands)

/-- Something else happened than a reset or an echo. -/
theorem Guarded.quiet {chip : Chip} {history : List Note} {note : Note}
    (guarded : Guarded chip history) (unechoed : note.confirms = false)
    (calm : note.resets = false) (allowed : note.commands = true → chip.unconfigured = false) :
    Guarded chip (history ++ [note]) := by
  have told : chip.unconfigured = false ↔
      note.confirms = true ∨ chip.unconfigured = false ∧ note.resets = false := by
    simp [unechoed, calm]
  exact guarded.noted told allowed

/-- The driver is guarded after what happened before and since. -/
def Since (before : List Note) (chip : Chip) (notes : List Note) : Prop :=
  Guarded chip (before ++ notes.reverse)

section Since

variable {before notes : List Note} {chip : Chip} {note : Note}

theorem since_cons : Since before chip (note :: notes) ↔
    Guarded chip (before ++ notes.reverse ++ [note]) := by
  rw [Since, List.reverse_cons, List.append_assoc]

theorem Since.quiet (since : Since before chip notes) (unechoed : note.confirms = false)
    (calm : note.resets = false) (allowed : note.commands = true → chip.unconfigured = false) :
    Since before chip (note :: notes) :=
  since_cons.mpr (Guarded.quiet since unechoed calm allowed)

/-- Something else happened than a reset, an echo or a 1-Wire command. -/
theorem Since.plain (since : Since before chip notes) (unechoed : note.confirms = false)
    (calm : note.resets = false) (other : note.commands = false) :
    Since before chip (note :: notes) :=
  since.quiet unechoed calm fun commands => absurd commands (by simp [other])

theorem Since.noted {unconfigured : Bool} (since : Since before chip notes)
    (flag : unconfigured = false ↔
      note.confirms = true ∨ chip.unconfigured = false ∧ note.resets = false)
    (allowed : note.commands = true → chip.unconfigured = false) :
    Since before { chip with unconfigured := unconfigured } (note :: notes) :=
  since_cons.mpr (Guarded.noted since flag allowed)

end Since

/-! ### Resets and configurations -/

section Calls

variable {before : List Note}

theorem keeps_since_resetChip : Keeps (Held (Since before)) (resetChip link.noted) := by
  refine Action.leads_bind
    (fun _ => Held fun chip notes => Since before { chip with unconfigured := true } notes)
    (leads_transfer _ _ (fun _ _ _ since => since.noted ?_ nofun)
      fun _ _ since => since.plain rfl rfl rfl) fun _ => ?_
  · simp [Note.confirms, Note.resets, address, deviceResetCommand]
  refine Action.leads_bind (fun _ => Held (Since before)) (Action.leads_update fun _ here => here)
    fun _ => ?_
  exact Action.leads_current_bind fun state here =>
    (keeps_poll (fun _ _ _ since => since.plain rfl rfl rfl)
      (fun _ _ _ since => since.plain rfl rfl rfl) _ _).of_imp fun _ same => same ▸ here

/-- The low half of the byte that is written is what the chip stores. -/
theorem encoded_and (config : ChipConfig) : config.encoded &&& 0x0f = config.stored := by
  have every : ∀ bits : BitVec 8,
      (ChipConfig.mk ⟨bits⟩).encoded &&& 0x0f = (ChipConfig.mk ⟨bits⟩).stored := by decide +kernel
  exact every config.bits.toBitVec

theorem confirms_iff (config : ChipConfig) (echo : Vector UInt8 1) :
    (Note.writeRead 0x18 [0xd2, config.encoded] 1 (some echo)).confirms = true ↔
      echo.get 0 = config.stored := by
  have single : echo.toList = [echo.get 0] := by
    refine List.ext_getElem (by simp) fun place _ inside => ?_
    obtain rfl : place = 0 := by simpa using inside
    simp [Vector.get]
  rw [← encoded_and]
  simp [Note.confirms, single]

theorem keeps_since_configure (config : ChipConfig) :
    Keeps (Held (Since before)) (configure link.noted config) := by
  refine Action.leads_bind (fun echo => Held fun chip notes =>
      if echo[0] = config.stored then Since before { chip with unconfigured := false } notes
      else Since before chip notes)
    (leads_transfer _ _ (fun chip notes echo since => ?_)
      fun _ _ since => since.plain rfl rfl rfl) fun echo => ?_
  · split
    · next same =>
      exact since.noted (iff_of_true rfl (.inl ((confirms_iff config echo).mpr same)))
        fun commands => absurd commands Bool.false_ne_true
    · next other =>
      exact since.plain (Bool.eq_false_iff.mpr (mt (confirms_iff config echo).mp other)) rfl rfl
  · by_cases same : echo[0] = config.stored
    · simp only [same, if_true, not_true, ne_eq, if_false]
      exact Action.leads_update fun _ here => here
    · simp only [same, if_true, not_false_eq_true, ne_eq, if_false]
      exact Action.leads_fail fun _ here => here

/-! ### Registers -/

theorem keeps_since_register (pointer : UInt8) (count : Nat) :
    Keeps (Held (Since before)) (register link.noted pointer count) :=
  leads_register _ _ (fun _ _ _ since => since.plain rfl rfl rfl)
    fun _ _ since => since.plain rfl rfl rfl

/-- What neither a read nor a write of port codes ends. -/
structure Unported (kept : Chip → List Note → Prop) : Prop where
  read : ∀ chip notes answer, kept chip notes →
    kept chip (.writeRead 0x18 [0xe1, 0xb4] 8 answer :: notes)
  write : ∀ chip notes bytes result, kept chip notes →
    kept chip (.write 0x18 (0xc3 :: bytes) result :: notes)

section Unported

variable {kept : Chip → List Note → Prop} (unported : Unported kept)

include unported

theorem Unported.keeps_register : Keeps (Held kept) (register link.noted 0xb4 8) :=
  keeps_transfer _ _ unported.read

theorem Unported.keeps_readPort : Keeps (Held kept) (readPort link.noted) :=
  keeps_readPort_of unported.keeps_register

theorem Unported.keeps_correctPort (wanted current : PortCodes) :
    Keeps (Held kept) (correctPort link.noted wanted current) :=
  keeps_correctPort_of
    (fun bytes => keeps_transfer _ _ fun chip notes => unported.write chip notes bytes)
    unported.keeps_register wanted current

end Unported

theorem unported_since : Unported (Since before) where
  read _ _ answer since := by cases answer <;> exact since.plain rfl rfl rfl
  write _ _ _ result since := by cases result <;> exact since.plain rfl rfl rfl

theorem keeps_since_changePort (parameter : PortParameter) (overdrive : Bool) (code : UInt8) :
    Keeps (Held (Since before)) (changePort link.noted parameter overdrive code) := by
  unfold changePort
  split
  · exact Action.leads_fail fun _ here => here
  · refine Action.leads_bind _ unported_since.keeps_readPort fun current => ?_
    split
    · exact Action.leads_fail fun _ here => here
    · refine Action.leads_bind _ (unported_since.keeps_correctPort _ current) fun _ => ?_
      exact Action.leads_update fun _ since => ⟨since.flag, since.commanded⟩

/-- A configuration that was taken clears the flag. -/
theorem leads_configure_set (config : ChipConfig) :
    Leads (fun _ => True) (configure link config) (fun _ state => state.1.unconfigured = false)
      fun _ => True := by
  refine Action.leads_bind _ Action.leads_any fun echo => ?_
  split
  · exact Action.leads_fail fun _ _ => trivial
  · exact Action.leads_update fun _ _ => rfl

theorem leads_setUp_since (link : ChipLink σ ε) (settings : ChipSettings) :
    Leads (Held (Since before)) (setUp link.noted settings)
      (fun _ => Held fun chip notes => Since before chip notes ∧ chip.unconfigured = false)
      fun _ => True := by
  have kept : Unported fun chip notes => Since before chip notes ∧ chip.unconfigured = false :=
    ⟨fun _ _ _ here => ⟨unported_since.read _ _ _ here.1, here.2⟩,
      fun _ _ _ _ here => ⟨unported_since.write _ _ _ _ here.1, here.2⟩⟩
  refine Action.leads_bind (fun _ => Held (Since before))
    (keeps_since_resetChip.mono (fun _ _ here => here) fun _ _ => trivial) fun _ => ?_
  refine Action.leads_bind (fun _ => Held fun chip notes =>
    Since before chip notes ∧ chip.unconfigured = false) ?_ fun _ => ?_
  · have keeps : Keeps (Held (Since before)) (configure link.noted settings.config) :=
      keeps_since_configure settings.config
    have both := keeps.leads_and (leads_configure_set settings.config)
    exact (both.mono (fun _ _ here => here) fun _ _ => trivial).of_imp fun _ here => ⟨here, trivial⟩
  refine Action.leads_bind _ (kept.keeps_readPort.mono (fun _ _ here => here) fun _ _ => trivial)
    fun current => ?_
  exact (kept.keeps_correctPort settings.port current).mono (fun _ _ here => here)
    fun _ _ => trivial

end Calls

end Chip

end WireBridge
