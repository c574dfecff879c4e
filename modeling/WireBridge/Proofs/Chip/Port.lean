/-
**The port codes of a driver are those that its chip confirmed.**

The driver of a chip keeps the port codes that it read back last. Whatever the two-wire bus does,
only codes that were read back replace them.

* `Chip.portsRead`: the port codes that were read, in order;
* `Chip.PortRequest`, `Chip.PortCall`: a change of one code as it is asked for, and what came of it;
* `Chip.changePorts`: changes one after the other;
* `Chip.PortCall.Confirms`: what a change leaves in the driver;
* `Chip.build_confirms`: **a chip that was built** has the configuration and the port codes that
  were asked for, and each later change is confirmed or changes nothing.
-/

import WireBridge.Proofs.Chip.Notes
import WireBridge.Sim.Script

namespace WireBridge

open WireBridge.Action (Leads)

/-- There is nothing to write only if the codes are the wanted ones. -/
theorem PortCodes.eq_of_changes {wanted current : PortCodes} (none : wanted.changes current = []) :
    wanted = current := by
  obtain ⟨codes⟩ := wanted
  obtain ⟨present⟩ := current
  refine congrArg PortCodes.mk (Vector.ext fun place inside => ?_)
  have each := List.filterMap_eq_nil_iff.mp none
  have length : place <
      (PortParameter.order.zip (codes.toList.zip present.toList)).length := by
    simpa [PortParameter.order] using inside
  have same := each _ (List.getElem_mem length)
  simpa using same

namespace Chip

variable {σ ε : Type} {link : ChipLink σ ε}

/-! ### What notes tell -/

/-- The port codes that were read: the low halves of eight bytes. -/
def Note.port? : Note → Option PortCodes
  | .writeRead peer bytes 8 (some answer) =>
    if peer = 0x18 ∧ bytes = [0xe1, 0xb4] then some ⟨answer.map (· &&& 0x0f)⟩ else none
  | _ => none

/-- A configuration was written. -/
def Note.configures : Note → Bool
  | .write _ bytes _ => bytes.head? == some 0xd2
  | .writeRead _ bytes _ _ => bytes.head? == some 0xd2
  | _ => false

/-- All port codes that were read, in order. -/
def portsRead (notes : List Note) : List PortCodes := notes.filterMap Note.port?

/-- What the driver has as its port codes, which configurations were written, and which port codes
were read. The latest note is the first. -/
structure Knows (port : PortCodes) (written : List Note) (ports : List PortCodes) (chip : Chip)
    (notes : List Note) : Prop where
  port : chip.port = port
  written : notes.reverse.filter Note.configures = written
  ports : portsRead notes.reverse = ports

theorem Knows.start (chip : Chip) : Knows chip.port [] [] chip [] := ⟨rfl, rfl, rfl⟩

namespace Knows

variable {port : PortCodes} {written : List Note} {ports : List PortCodes} {chip : Chip}
  {notes : List Note} (knows : Knows port written ports chip notes)

include knows

theorem noted (note : Note) :
    Knows port (written ++ if note.configures then [note] else []) (ports ++ note.port?.toList) chip
      (note :: notes) := by
  refine ⟨knows.port, ?_, ?_⟩
  · rw [List.reverse_cons, List.filter_append, knows.written]
    cases told : note.configures <;> simp [told]
  · rw [portsRead, List.reverse_cons, List.filterMap_append, ← portsRead, knows.ports]
    cases told : note.port? <;> simp [told]

/-- A note about something else. -/
theorem quiet {note : Note} (other : note.configures = false) (unread : note.port? = none) :
    Knows port written ports chip (note :: notes) := by
  have told := knows.noted note
  rw [other, unread, Option.toList_none] at told
  simpa using told

theorem reads (bytes : Vector UInt8 8) :
    Knows port written (ports ++ [.ofBytes bytes]) chip
      (.writeRead 0x18 [0xe1, 0xb4] 8 (some bytes) :: notes) := by
  let note : Note := .writeRead 0x18 [0xe1, 0xb4] 8 (some bytes)
  have told := knows.noted note
  rw [show note.configures = false from rfl, show note.port? = some (.ofBytes bytes) from rfl]
    at told
  simpa using told

end Knows

/-! ### Reading and writing codes -/

section Codes

variable {port : PortCodes} {written : List Note} {ports : List PortCodes}

theorem leads_readPort :
    Leads (Held (Knows port written ports)) (readPort link.noted)
      (fun current => Held (Knows port written (ports ++ [current])))
      (Held fun chip _ => chip.port = port) := by
  refine Action.leads_bind (fun bytes => Held (Knows port written (ports ++ [.ofBytes bytes])))
    (leads_register _ 8 (fun _ _ bytes knows => knows.reads bytes) fun _ _ knows => knows.port)
    fun bytes => ?_
  exact Action.leads_pure fun _ here => here

/-- **Codes that were written** are read back. -/
theorem leads_correctPort {wanted current : PortCodes} :
    Leads (Held (Knows port written [current])) (correctPort link.noted wanted current)
      (fun _ => Held fun chip notes => ∃ ports, Knows port written ports chip notes ∧
        ports.head? = some current ∧ ports.getLast? = some wanted)
      (Held fun chip _ => chip.port = port) := by
  unfold correctPort
  dsimp only
  split
  · next none =>
    refine Action.leads_pure fun _ knows => ⟨[current], knows, rfl, ?_⟩
    rw [PortCodes.eq_of_changes (List.isEmpty_iff.mp none)]
    rfl
  · refine Action.leads_bind (fun _ => Held (Knows port written [current]))
      (leads_transfer _ _ (fun _ _ _ knows => knows.quiet rfl rfl) fun _ _ knows => knows.port)
      fun _ => ?_
    refine Action.leads_bind _ leads_readPort fun confirmed => ?_
    split
    · next same =>
      exact Action.leads_pure fun _ knows => ⟨[current, confirmed], knows, rfl, same ▸ rfl⟩
    · exact Action.leads_fail fun _ knows => knows.port

end Codes

/-! ### Changes -/

/-- A change of one code as it is asked for. -/
structure PortRequest where
  parameter : PortParameter
  overdrive : Bool
  code : UInt8
deriving DecidableEq

/-- The place of the code among the eight, if there is one and the code fits. -/
def PortRequest.place? (request : PortRequest) : Option (Fin 8) :=
  if request.code ≤ 0x0f then request.parameter.index? request.overdrive else none

/-- A change, what came of it, what happened on the way to the chip, in order, and the port codes
that the driver has afterwards. -/
structure PortCall (ε : Type) where
  request : PortRequest
  outcome : Except (ChipError ε) Unit
  made : List Note
  port : PortCodes

/-- What a change leaves in a driver with some port codes. If it is taken, these are the codes that
were read last. They have the code that was asked for, and all others as they were read first. If it
is not, they are the same as before. A change that is impossible is not tried. -/
structure PortCall.Confirms (before : PortCodes) (call : PortCall ε) : Prop where
  taken : call.outcome = .ok () → ∃ place reported, call.request.place? = some place ∧
    (portsRead call.made).head? = some reported ∧ (portsRead call.made).getLast? = some call.port ∧
    ∀ other : Fin 8, call.port.codes.get other =
      if other = place then call.request.code else reported.codes.get other
  failed : ∀ error, call.outcome = .error error → call.port = before
  refused : call.request.place? = none → call.outcome = .error .noSuchCode ∧ call.made = []

/-- One change. -/
def portCall (link : ChipLink σ ε) (request : PortRequest) (state : Chip × σ) :
    PortCall ε × (Chip × σ) :=
  let (outcome, (chip, (line, notes))) :=
    (changePort link.noted request.parameter request.overdrive request.code).perform
      (state.1, (state.2, []))
  (⟨request, outcome, notes.reverse, chip.port⟩, (chip, line))

/-- Changes one after the other, whatever comes of them. -/
def changePorts (link : ChipLink σ ε) : List PortRequest → Chip × σ → List (PortCall ε)
  | [], _ => []
  | request :: rest, state =>
    let (call, reached) := portCall link request state
    call :: changePorts link rest reached

/-- Each change confirms what it leaves. -/
def AllConfirm : PortCodes → List (PortCall ε) → Prop
  | _, [] => True
  | port, call :: rest => call.Confirms port ∧ AllConfirm call.port rest

theorem changePort_refused {request : PortRequest} (impossible : request.place? = none)
    (state : Chip × σ) :
    (changePort link request.parameter request.overdrive request.code).perform state =
      (.error .noSuchCode, state) := by
  have refuses : (PortCodes.maxCode < request.code ||
      (request.parameter.index? request.overdrive).isNone) = true := by
    unfold PortRequest.place? at impossible
    split at impossible
    · rw [impossible]
      exact Bool.or_true _
    · next large =>
      have tooLarge : PortCodes.maxCode < request.code := UInt8.not_le.mp large
      rw [decide_eq_true tooLarge]
      rfl
  rw [changePort, if_pos refuses]
  rfl

theorem PortRequest.fits {request : PortRequest} {place : Fin 8}
    (possible : request.place? = some place) :
    ¬ PortCodes.maxCode < request.code ∧
      request.parameter.index? request.overdrive = some place := by
  unfold place? at possible
  split at possible
  · next small => exact ⟨UInt8.not_lt.mpr small, possible⟩
  · exact absurd possible (Option.some_ne_none place).symm

/-- **One code is changed** if it can be. All others stay as they are. -/
theorem PortRequest.changes {request : PortRequest} {place : Fin 8}
    (possible : request.place? = some place) (current : PortCodes) :
    ∃ wanted, current.set? request.parameter request.overdrive request.code = some wanted ∧
      ∀ other : Fin 8, wanted.codes.get other =
        if other = place then request.code else current.codes.get other := by
  obtain ⟨small, named⟩ := fits possible
  refine ⟨⟨current.codes.set place request.code⟩, ?_, fun other => ?_⟩
  · rw [PortCodes.set?, named]
    exact if_neg small
  · show (current.codes.set place request.code)[other.val] = _
    rw [Vector.getElem_set]
    simp only [Fin.ext_iff, eq_comm]
    rfl

theorem leads_changePort (link : ChipLink σ ε) {request : PortRequest} {place : Fin 8}
    (possible : request.place? = some place) {port : PortCodes} :
    Leads (Held (Knows port [] []))
      (changePort link.noted request.parameter request.overdrive request.code)
      (fun _ => Held fun chip notes => ∃ ports reported, Knows chip.port [] ports chip notes ∧
        ports.head? = some reported ∧ ports.getLast? = some chip.port ∧
        ∀ other : Fin 8, chip.port.codes.get other =
          if other = place then request.code else reported.codes.get other)
      (Held fun chip _ => chip.port = port) := by
  have accepts : ¬ (PortCodes.maxCode < request.code ||
      (request.parameter.index? request.overdrive).isNone) = true := by
    obtain ⟨small, named⟩ := PortRequest.fits possible
    rw [named, decide_eq_false small]
    exact Bool.noConfusion
  rw [changePort, if_neg accepts]
  refine Action.leads_bind _ leads_readPort fun current => ?_
  obtain ⟨wanted, set, changed⟩ := request.changes possible current
  rw [set]
  refine Action.leads_bind _ leads_correctPort fun _ => Action.leads_update ?_
  rintro state ⟨ports, knows, first, last⟩
  exact ⟨ports, current, ⟨rfl, knows.written, knows.ports⟩, first, last, changed⟩

/-- **A change is confirmed** or changes nothing. -/
theorem portCall_confirms (request : PortRequest) (state : Chip × σ) :
    (portCall link request state).1.Confirms state.1.port := by
  obtain ⟨chip, line⟩ := state
  unfold portCall
  cases possible : request.place? with
  | none =>
    rw [changePort_refused possible]
    exact ⟨fun taken => (nomatch taken), fun _ _ => rfl, fun _ => ⟨rfl, rfl⟩⟩
  | some place =>
    have ended := leads_changePort link possible (chip, (line, [])) (Knows.start chip)
    generalize (changePort link.noted request.parameter request.overdrive request.code).perform
      (chip, (line, [])) = performed at ended ⊢
    have refused {call : PortCall ε} (none : request.place? = none) :
        call.outcome = .error .noSuchCode ∧ call.made = [] :=
      absurd (possible.symm.trans none) (Option.some_ne_none place)
    obtain ⟨error | _, reached, left, notes⟩ := performed
    · exact ⟨fun taken => (nomatch taken), fun _ _ => ended, refused⟩
    · obtain ⟨ports, reported, knows, first, last, codes⟩ := ended
      obtain rfl : portsRead notes.reverse = ports := knows.ports
      exact ⟨fun _ => ⟨place, reported, possible, first, last, codes⟩,
        fun _ failed => (nomatch failed), refused⟩

theorem changePorts_confirm (requests : List PortRequest) (state : Chip × σ) :
    AllConfirm state.1.port (changePorts link requests state) := by
  induction requests generalizing state with
  | nil => trivial
  | cons request rest ih =>
    exact ⟨portCall_confirms request state, ih (portCall link request state).2⟩

/-! ### Building -/

/-- **The configuration is echoed.** -/
theorem leads_configure {port : PortCodes} (config : ChipConfig) :
    Leads (Held (Knows port [] [])) (configure link.noted config)
      (fun _ => Held (Knows port
        [.writeRead 0x18 [0xd2, config.encoded] 1 (some #v[config.stored])] []))
      (Held fun _ _ => True) := by
  let note (echo : Vector UInt8 1) : Note :=
    .writeRead 0x18 [0xd2, config.encoded] 1 (some echo)
  refine Action.leads_bind (fun echo => Held (Knows port [note echo] []))
    (leads_transfer _ _ (fun _ _ echo knows => knows.noted (note echo)) fun _ _ _ => trivial)
    fun echo => ?_
  split
  · exact Action.leads_fail fun _ _ => trivial
  · next same =>
    have echoed : echo = #v[config.stored] := by
      refine Vector.ext fun place inside => ?_
      obtain rfl : place = 0 := Nat.lt_one_iff.mp inside
      exact Decidable.not_not.mp same
    refine Action.leads_update fun state knows => ?_
    subst echoed
    exact ⟨knows.port, knows.written, knows.ports⟩

theorem leads_setUp (link : ChipLink σ ε) (settings : ChipSettings) :
    Leads (Held (Knows settings.port [] [])) (setUp link.noted settings)
      (fun _ => Held fun chip notes => ∃ ports,
        Knows settings.port
          [.writeRead 0x18 [0xd2, settings.config.encoded] 1 (some #v[settings.config.stored])]
          ports chip notes ∧
        ports.getLast? = some settings.port)
      (Held fun _ _ => True) := by
  have resets : Leads (Held (Knows settings.port [] [])) (resetChip link.noted)
      (fun _ => Held (Knows settings.port [] [])) (Held fun _ _ => True) :=
    (keeps_resetChip (fun _ _ _ knows => knows.quiet rfl rfl)
      (fun _ _ knows => ⟨knows.port, knows.written, knows.ports⟩)
      (fun _ _ _ knows => knows.quiet rfl rfl) fun _ _ _ knows => knows.quiet rfl rfl).mono
      (fun _ _ here => here) fun _ _ => trivial
  refine Action.leads_bind _ resets fun _ => ?_
  refine Action.leads_bind _ (leads_configure settings.config) fun _ => ?_
  refine Action.leads_bind _ (leads_readPort.mono (fun _ _ here => here) fun _ _ => trivial)
    fun current => ?_
  exact leads_correctPort.mono (fun _ _ ⟨ports, knows, _, last⟩ => ⟨ports, knows, last⟩)
    fun _ _ => trivial

/-- **A chip that was built is as it was asked for.** Its only configuration was echoed with the
four bits that were asked for. The port codes that the driver has are those that were asked for, and
those that were read last. Each later change, whatever comes of the others, is confirmed by the chip
or changes nothing. -/
theorem build_confirms {settings : ChipSettings} {line reached : σ} {chip : Chip}
    {made : List Note}
    (built : (build link.noted settings).perform (line, []) = (.ok chip, (reached, made.reverse))) :
    made.filter Note.configures =
        [.writeRead 0x18 [0xd2, settings.config.encoded] 1 (some #v[settings.config.stored])] ∧
      chip.port = settings.port ∧ (portsRead made).getLast? = some chip.port ∧
      ∀ requests, AllConfirm chip.port (changePorts link requests (chip, reached)) := by
  have ended := leads_setUp link settings (fresh settings, (line, []))
    (Knows.start (fresh settings))
  unfold build at built
  rw [Action.perform_ofStep] at built
  generalize (setUp link.noted settings).perform (fresh settings, (line, [])) = performed
    at ended built
  obtain ⟨error | _, other, now, notes⟩ := performed
  · exact nomatch (congrArg Prod.fst built)
  · obtain ⟨ports, knows, last⟩ := ended
    obtain ⟨same, rest⟩ := Prod.mk.inj built
    obtain rfl : other = chip := Except.ok.inj same
    obtain rfl : notes = made.reverse := congrArg Prod.snd rest
    have read := knows.ports
    have written := knows.written
    rw [List.reverse_reverse] at read written
    exact ⟨written, knows.port, by rw [read, last, ← knows.port],
      fun requests => changePorts_confirm requests (other, reached)⟩

/-- A chip that has two other codes gets those of power-on. Then one code is changed, and one that
does not exist is refused. -/
theorem build_confirms_leftover :
    let link : ChipLink (List UInt8) Empty := ⟨Sim.answering, fun _ line => line⟩
    let requests : List PortRequest := [⟨.weakPullup, false, 5⟩, ⟨.weakPullup, true, 5⟩]
    let later : List UInt8 := [6, 6, 6, 6, 6, 6, 6, 6, 6, 6, 6, 6, 6, 6, 6, 0xf5]
    let made : List Note :=
      [.write 0x18 [0xf0] (some ()), .read 0x18 1 (some #v[0x18]),
        .writeRead 0x18 [0xd2, 0xe1] 1 (some #v[0x01]),
        .writeRead 0x18 [0xe1, 0xb4] 8 (some #v[10, 6, 6, 6, 2, 6, 6, 6]),
        .write 0x18 [0xc3, 0x06, 0x46] (some ()),
        .writeRead 0x18 [0xe1, 0xb4] 8 (some #v[6, 6, 6, 6, 6, 6, 6, 6])]
    (build link.noted defaultSettings).perform
        ([0x18, 0x01, 10, 6, 6, 6, 2, 6, 6, 6, 6, 6, 6, 6, 6, 6, 6, 6] ++ later, []) =
        (.ok ⟨10, false, .powerOn⟩, (later, made.reverse)) ∧
      (portsRead made).getLast? = some .powerOn ∧
      AllConfirm .powerOn (changePorts link requests (⟨10, false, .powerOn⟩, later)) ∧
      (changePorts link requests (⟨10, false, .powerOn⟩, later)).map (fun call => call.port.codes) =
        [#v[6, 6, 6, 6, 6, 6, 6, 5], #v[6, 6, 6, 6, 6, 6, 6, 5]] := by
  intro link requests later made
  have built : (build link.noted defaultSettings).perform
      ([0x18, 0x01, 10, 6, 6, 6, 2, 6, 6, 6, 6, 6, 6, 6, 6, 6, 6, 6] ++ later, []) =
        (.ok ⟨10, false, .powerOn⟩, (later, made.reverse)) := by
    let ended := (build link.noted defaultSettings).perform
      ([0x18, 0x01, 10, 6, 6, 6, 2, 6, 6, 6, 6, 6, 6, 6, 6, 6, 6, 6] ++ later, [])
    have ran : ended.1.toOption = some ⟨10, false, .powerOn⟩ ∧
        ended.2 = (later, made.reverse) := by
      decide +kernel
    show ended = _
    clear_value ended
    obtain ⟨_ | chip, left⟩ := ended
    · exact nomatch ran.1
    · exact Prod.ext (congrArg Except.ok (Option.some.inj ran.1)) ran.2
  obtain ⟨_, _, last, confirm⟩ := build_confirms built
  exact ⟨built, last, confirm requests, by decide +kernel⟩

end Chip

end WireBridge
