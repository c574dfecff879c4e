/-
**No 1-Wire command leaves a chip that is not configured.**

Whatever a driver is called for, in any order and with any failures on the two-wire bus, its chip
gets 1-Wire commands only while it is configured.

* `Chip.Call`, `Chip.run`: calls of a driver one after the other, with what happened during each;
* `Chip.Entry.Guards`: what comes of a request, by whether the chip is configured;
* `Chip.build_guards`: **a chip that was built** gets no 1-Wire command after a reset that it took
  until it echoes a configuration, and what needs one fails without any traffic.
-/

import WireBridge.Proofs.Chip.Requests
import WireBridge.Sim.Script

namespace WireBridge

open WireBridge.Action (Keeps)

namespace Chip

variable {σ ε : Type} {link : ChipLink σ ε}

/-! ### Requests -/

theorem unread_since (before : List Note) : Unread (Since before) where
  read _ _ _ since := since.plain rfl rfl rfl
  fetch _ _ answer since := by cases answer <;> exact since.plain rfl rfl rfl
  pause _ _ _ since := since.plain rfl rfl rfl

theorem spares_since (before : List Note) : (master link.noted).Spares (Held (Since before)) := by
  refine spares_master (unread_since before) fun _ _ bytes _ known since configured => ?_
  refine since.quiet rfl ?_ fun _ => configured
  have other : bytes ≠ [0xf0] := by
    rintro rfl
    exact absurd known (by decide)
  simp [Note.resets, other]

/-! ### Calls of a driver -/

/-- What a driver is called for: what the chip itself is told, reads of its registers, and requests
to the chip as a bus master. -/
inductive Call where
  | resetChip
  | configure (config : ChipConfig)
  | changePort (parameter : PortParameter) (overdrive : Bool) (code : UInt8)
  | register (pointer : UInt8) (count : Nat)
  | status
  | readConfig
  | readPort
  | line (request : Master.Request)

/-- What comes of a call. -/
def Call.run (link : ChipLink σ ε) : Call → Action (Chip × σ) (BusError (ChipError ε)) Unit
  | .resetChip => Action.mapError .other (Chip.resetChip link).done
  | .configure config => Action.mapError .other (Chip.configure link config)
  | .changePort parameter overdrive code =>
    Action.mapError .other (Chip.changePort link parameter overdrive code)
  | .register pointer count => Action.mapError .other (Chip.register link pointer count).done
  | .status => Action.mapError .other (Chip.status link).done
  | .readConfig => Action.mapError .other (Chip.readConfig link).done
  | .readPort => Action.mapError .other (Chip.readPort link).done
  | .line request => request.run (master link)

theorem keeps_since_run (before : List Note) (call : Call) :
    Keeps (Held (Since before)) (call.run link.noted) := by
  have done {γ : Type} {action : Action (Chip × (σ × List Note)) (ChipError ε) γ}
      (keeps : Keeps (Held (Since before)) action) :
      Keeps (Held (Since before)) (Action.mapError BusError.other action.done) :=
    Action.leads_mapError (Action.leads_bind _ keeps fun _ => Action.leads_pure fun _ here => here)
  have read {γ : Type} (pointer : UInt8) (count : Nat) (form : Vector UInt8 count → γ) :
      Keeps (Held (Since before)) (do
        let bytes ← Chip.register link.noted pointer count
        pure (form bytes)) :=
    Action.leads_bind _ (keeps_since_register pointer count) fun _ =>
      Action.leads_pure fun _ here => here
  cases call with
  | resetChip => exact done keeps_since_resetChip
  | configure config => exact Action.leads_mapError (keeps_since_configure config)
  | changePort parameter overdrive code =>
    exact Action.leads_mapError (keeps_since_changePort parameter overdrive code)
  | register pointer count => exact done (keeps_since_register pointer count)
  | status => exact done (read _ _ _)
  | readConfig => exact done (read _ _ _)
  | readPort => exact done (read _ _ _)
  | line request => exact (spares_since before).keeps_run request

/-- A call, what came of it, and what happened on the way to the chip, in order. -/
structure Entry (ε : Type) where
  call : Call
  outcome : Except (BusError (ChipError ε)) Unit
  made : List Note

/-- One call. -/
def step (link : ChipLink σ ε) (call : Call) (state : Chip × σ) : Entry ε × (Chip × σ) :=
  let (outcome, (chip, (line, notes))) := (call.run link.noted).perform (state.1, (state.2, []))
  (⟨call, outcome, notes.reverse⟩, (chip, line))

/-- Calls one after the other, whatever comes of them. -/
def run (link : ChipLink σ ε) : List Call → Chip × σ → List (Entry ε)
  | [], _ => []
  | call :: rest, state =>
    let (entry, reached) := step link call state
    entry :: run link rest reached

/-- What happened during calls, in order. -/
def traffic (entries : List (Entry ε)) : List Note := entries.flatMap Entry.made

/-- What comes of a request to a chip after what happened before. If it needs a 1-Wire command, then
a chip that is not configured makes it fail without traffic, and any other chip gets that command
first of all. Otherwise there is no traffic. -/
structure Entry.Guards (before : List Note) (entry : Entry ε) : Prop where
  refused : ∀ request bytes, entry.call = .line request → request.opening = some bytes →
    ¬ Configured before → entry.outcome = .error .busUninitialized ∧ entry.made = []
  opened : ∀ request bytes, entry.call = .line request → request.opening = some bytes →
    Configured before → ∃ result, entry.made.head? = some (.write 0x18 bytes result)
  idle : ∀ request, entry.call = .line request → request.opening = none → entry.made = []

/-- The driver follows each call. -/
theorem step_guarded (link : ChipLink σ ε) {before : List Note} {chip : Chip}
    (guarded : Guarded chip before) (call : Call) (line : σ) :
    Guarded (step link call (chip, line)).2.1
      (before ++ (step link call (chip, line)).1.made) := by
  have start : Held (Since before) (chip, (line, [])) := by
    rw [Held, Since, List.reverse_nil, List.append_nil]
    exact guarded
  exact Action.keeps_iff.mp (keeps_since_run before call) _ start

theorem step_guards (link : ChipLink σ ε) {before : List Note} {chip : Chip}
    (guarded : Guarded chip before) (call : Call) (line : σ) :
    (step link call (chip, line)).1.Guards before where
  refused request bytes same opens unset := by
    obtain rfl : call = .line request := same
    have unset : chip.unconfigured = true :=
      (Bool.not_eq_false _).mp (mt guarded.flag.mp unset)
    have refuses : Refuses (chip, (line, [])) (request.run (master link.noted)) :=
      refuses_run unset opens
    rw [Refuses] at refuses
    simp [step, Call.run, refuses]
  opened request bytes same opens configured := by
    obtain rfl : call = .line request := same
    have ended := opens_run link opens (chip, (line, []))
      ⟨guarded.flag.mpr configured, rfl⟩
    simp only [step, Call.run]
    generalize (request.run (master link.noted)).perform (chip, (line, [])) = performed at ended ⊢
    obtain ⟨error | _, reached, left, notes⟩ := performed
    · obtain ⟨result, first⟩ := ended
      exact ⟨result, by rw [List.head?_reverse, first]⟩
    · obtain ⟨result, first⟩ := ended
      exact ⟨result, by rw [List.head?_reverse, first]⟩
  idle request same idle := by
    obtain rfl : call = .line request := same
    simp [step, Call.run, run_idle idle]

/-- Calls one after the other are all guarded. -/
theorem run_guards {before : List Note} {chip : Chip} (guarded : Guarded chip before)
    (calls : List Call) (line : σ) :
    (run link calls (chip, line)).map Entry.call = calls ∧
      Commanded (before ++ traffic (run link calls (chip, line))) ∧
      ∀ earlier entry later, run link calls (chip, line) = earlier ++ entry :: later →
        entry.Guards (before ++ traffic earlier) := by
  induction calls generalizing before chip line with
  | nil =>
    refine ⟨rfl, ?_, fun earlier entry later split => ?_⟩
    · rw [run, traffic, List.flatMap_nil, List.append_nil]
      exact guarded.commanded
    · exact absurd split.symm (List.append_ne_nil_of_right_ne_nil _ (List.cons_ne_nil _ _))
  | cons call rest ih =>
    have followed := step_guarded link guarded call line
    have guards := step_guards link guarded call line
    have same : (step link call (chip, line)).1.call = call := rfl
    rw [run]
    generalize step link call (chip, line) = stepped at followed guards same ⊢
    obtain ⟨entry, reached, middle⟩ := stepped
    obtain ⟨asked, commanded, others⟩ := ih followed middle
    refine ⟨by rw [List.map_cons, asked, same], ?_, fun earlier other later split => ?_⟩
    · rw [traffic, List.flatMap_cons, ← List.append_assoc]
      exact commanded
    · cases earlier with
      | nil =>
        obtain ⟨rfl, _⟩ := List.cons.inj split
        rw [traffic, List.flatMap_nil, List.append_nil]
        exact guards
      | cons first earlier =>
        obtain ⟨rfl, tail⟩ := List.cons.inj split
        rw [traffic, List.flatMap_cons, ← List.append_assoc]
        exact others earlier other later tail

/-- Before anything happened, a chip counts as not configured. -/
theorem guarded_fresh (settings : ChipSettings) : Guarded (fresh settings) [] where
  flag := by
    refine iff_of_false Bool.noConfusion ?_
    rintro ⟨earlier, note, later, split, -⟩
    exact absurd split.symm (List.append_ne_nil_of_right_ne_nil _ (List.cons_ne_nil _ _))
  commanded sooner note later split :=
    absurd split.symm (List.append_ne_nil_of_right_ne_nil _ (List.cons_ne_nil _ _))

/-- **A chip gets 1-Wire commands only while it is configured.** It is so once it was built, for as
long as it takes no reset, and again after the next configuration that it echoes. Whatever a driver
is called for, whatever comes of it, no command is written at any other time: what would need one
fails, without any traffic. -/
theorem build_guards {settings : ChipSettings} {line reached : σ} {chip : Chip} {made : List Note}
    (built : (build link.noted settings).perform (line, []) = (.ok chip, (reached, made.reverse)))
    (calls : List Call) :
    let entries := run link calls (chip, reached)
    Configured made ∧ entries.map Entry.call = calls ∧ Commanded (made ++ traffic entries) ∧
      ∀ earlier entry later, entries = earlier ++ entry :: later →
        entry.Guards (made ++ traffic earlier) := by
  have start : Held (Since []) (fresh settings, (line, [])) := guarded_fresh settings
  have ended := leads_setUp_since link settings (fresh settings, (line, [])) start
  unfold build at built
  rw [Action.perform_ofStep] at built
  generalize (setUp link.noted settings).perform (fresh settings, (line, [])) = performed
    at ended built
  obtain ⟨error | _, other, now, notes⟩ := performed
  · exact nomatch (congrArg Prod.fst built)
  · obtain ⟨same, rest⟩ := Prod.mk.inj built
    obtain rfl : other = chip := Except.ok.inj same
    obtain rfl : now = reached := congrArg Prod.fst rest
    obtain rfl : notes = made.reverse := congrArg Prod.snd rest
    have guarded : Guarded other made := by
      have since := ended.1
      rw [Since, List.reverse_reverse] at since
      exact since
    exact ⟨guarded.flag.mp ended.2, run_guards guarded calls now⟩

/-- A chip is reset between two requests. The one that follows at once fails; after the chip was
configured again, the next one succeeds. -/
theorem build_guards_reset :
    let link : ChipLink (List UInt8) Empty := ⟨Sim.answering, fun _ line => line⟩
    let calls : List Call :=
      [.line .reset, .resetChip, .line (.readBytes 1), .configure ⟨1⟩, .line (.writeByte 0x44)]
    let later : List UInt8 := [0x02, 0x18, 0x01, 0x00]
    let made : List Note :=
      [.write 0x18 [0xf0] (some ()), .read 0x18 1 (some #v[0x18]),
        .writeRead 0x18 [0xd2, 0xe1] 1 (some #v[0x01]),
        .writeRead 0x18 [0xe1, 0xb4] 8 (some #v[6, 6, 6, 6, 6, 6, 6, 6])]
    let entries := run link calls (⟨10, false, .powerOn⟩, later)
    (build link.noted defaultSettings).perform
        ([0x18, 0x01, 6, 6, 6, 6, 6, 6, 6, 6] ++ later, []) =
        (.ok ⟨10, false, .powerOn⟩, (later, made.reverse)) ∧
      Configured made ∧ Commanded (made ++ traffic entries) ∧
      (∀ earlier entry later, entries = earlier ++ entry :: later →
        entry.Guards (made ++ traffic earlier)) ∧
      entries.map (fun entry => (entry.outcome.toOption, entry.made)) =
        [(some (), [.write 0x18 [0xb4] (some ()), .read 0x18 1 (some #v[0x02])]),
          (some (), [.write 0x18 [0xf0] (some ()), .read 0x18 1 (some #v[0x18])]),
          (none, []),
          (some (), [.writeRead 0x18 [0xd2, 0xe1] 1 (some #v[0x01])]),
          (some (), [.write 0x18 [0xa5, 0x44] (some ()), .read 0x18 1 (some #v[0x00])])] := by
  intro link calls later made entries
  have built : (build link.noted defaultSettings).perform
      ([0x18, 0x01, 6, 6, 6, 6, 6, 6, 6, 6] ++ later, []) =
        (.ok ⟨10, false, .powerOn⟩, (later, made.reverse)) := by
    let ended := (build link.noted defaultSettings).perform
      ([0x18, 0x01, 6, 6, 6, 6, 6, 6, 6, 6] ++ later, [])
    have ran : ended.1.toOption = some ⟨10, false, .powerOn⟩ ∧
        ended.2 = (later, made.reverse) := by
      decide +kernel
    show ended = _
    clear_value ended
    obtain ⟨_ | chip, left⟩ := ended
    · exact nomatch ran.1
    · exact Prod.ext (congrArg Except.ok (Option.some.inj ran.1)) ran.2
  obtain ⟨configured, _, commanded, guards⟩ := build_guards built calls
  exact ⟨built, configured, commanded, guards, by decide +kernel⟩

end Chip

end WireBridge
