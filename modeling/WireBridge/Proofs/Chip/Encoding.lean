/-
**Control bytes turn the current port codes into the wanted ones.**

A driver sends one control byte for each code that differs. A chip reads the bytes one after the
other, each as a parameter, a speed and a code. So what is sent is compared with what a reader makes
of it (`PortCodes.adjusted`), which knows nothing of the order in which it was written.

* `PortCodes.Made`: port codes as they come about; all of them fit into four bits;
* `PortCodes.place?`: the place of the code that a control byte sets;
* `PortCodes.foldl_adjusted_changes`: **the reader ends with the wanted codes**;
* `PortCodes.map_place?_changes`: the bytes set the codes that differ, each once and in order;
* `Chip.Sends`, `Chip.correctPort_sends`: what is written to change codes;
* `ChipLink.Faithful`: a chip that reads control bytes in this way and reports its codes;
* `Chip.changes_encode`: **port codes are sent completely and minimally**, and a faithful chip never
  refuses them.
-/

import WireBridge.Proofs.Chip.Port

namespace WireBridge

open WireBridge.Action (FailsOnly Leads)

namespace PortCodes

variable {port wanted current : PortCodes}

/-! ### Codes of four bits -/

/-- Port codes as they come about: those of power-on, those that were read, and those with one code
replaced. -/
inductive Made : PortCodes → Prop
  | powerOn : Made powerOn
  | ofBytes (bytes : Vector UInt8 8) : Made (ofBytes bytes)
  | set {port changed : PortCodes} {parameter : PortParameter} {overdrive : Bool} {code : UInt8}
      (made : Made port) (replaced : port.set? parameter overdrive code = some changed) :
    Made changed

/-- What replacing a code makes. -/
theorem set?_eq_some {parameter : PortParameter} {overdrive : Bool} {code : UInt8}
    {changed : PortCodes} (replaced : port.set? parameter overdrive code = some changed) :
    ∃ place, parameter.index? overdrive = some place ∧ code ≤ maxCode ∧
      changed = ⟨port.codes.set place code place.isLt⟩ := by
  unfold set? at replaced
  cases named : parameter.index? overdrive with
  | none => exact nomatch (named ▸ replaced)
  | some place =>
    rw [named] at replaced
    dsimp only at replaced
    by_cases large : maxCode < code
    · rw [if_pos large] at replaced
      exact nomatch replaced
    · rw [if_neg large] at replaced
      exact ⟨place, rfl, UInt8.not_lt.mp large, (Option.some.inj replaced).symm⟩

theorem get_set (codes : Vector UInt8 8) (place other : Fin 8) (code : UInt8) :
    (codes.set place code place.isLt).get other =
      if other = place then code else codes.get other := by
  show (codes.set place code place.isLt)[other.val] = _
  rw [Vector.getElem_set]
  simp only [Fin.ext_iff, eq_comm]
  rfl

/-- Each code has four bits. -/
theorem Made.fits (made : port.Made) (place : Fin 8) : port.codes.get place ≤ maxCode := by
  induction made with
  | powerOn =>
    revert place
    decide
  | ofBytes bytes =>
    show (bytes.map (· &&& 0x0f))[place.val] ≤ maxCode
    rw [Vector.getElem_map]
    exact UInt8.and_le_right
  | set made replaced ih =>
    obtain ⟨changed, _, small, rfl⟩ := set?_eq_some replaced
    rw [get_set]
    split
    · exact small
    · exact ih

/-- The low half of a code is the code. -/
theorem and_of_le {code : UInt8} (small : code ≤ maxCode) : code &&& 0x0f = code := by
  have every : ∀ bits : BitVec 8, (⟨bits⟩ : UInt8) ≤ maxCode →
      (⟨bits⟩ : UInt8) &&& 0x0f = ⟨bits⟩ := by decide +kernel
  exact every code.toBitVec small

/-- Codes of four bits are what the low halves of their bytes say. -/
theorem Made.ofBytes_eq (made : port.Made) :
    PortCodes.ofBytes (Vector.ofFn fun place => (port.codes[place.val]?).getD 0) = port := by
  refine congrArg PortCodes.mk (Vector.ext fun place inside => ?_)
  have low : port.codes[place] &&& 0x0f = port.codes[place] :=
    and_of_le (made.fits ⟨place, inside⟩)
  rw [Vector.getElem_map, Vector.getElem_ofFn]
  simpa [inside] using low

/-! ### Control bytes -/

/-- The place of the code that a control byte sets: bits 7 to 5 are the parameter, bit 4 the
speed. -/
def place? (control : UInt8) : Option (Fin 8) :=
  (PortParameter.ofSelector? (control >>> 5)).bind fun parameter =>
    parameter.index? (control &&& 0x10 != 0)

/-- A control byte sets one code to its low half, or none. -/
theorem adjusted_eq (port : PortCodes) (control : UInt8) :
    port.adjusted control =
      match place? control with
      | some place => ⟨port.codes.set place (control &&& 0x0f) place.isLt⟩
      | none => port := by
  unfold adjusted place?
  cases PortParameter.ofSelector? (control >>> 5) with
  | none => rfl
  | some parameter =>
    dsimp only [Option.bind_some]
    unfold set?
    cases parameter.index? (control &&& 0x10 != 0) with
    | none => rfl
    | some place =>
      have small : ¬ maxCode < control &&& 0x0f := UInt8.not_lt.mpr UInt8.and_le_right
      dsimp only
      rw [if_neg small]
      rfl

/-- The parameter and the speed whose code is at a place. -/
def owner (place : Fin 8) : PortParameter × Bool := PortParameter.order.get place

/-- Applying control bytes keeps the codes small. -/
theorem Made.foldl (made : port.Made) (controls : List UInt8) :
    (controls.foldl adjusted port).Made := by
  induction controls generalizing port with
  | nil => exact made
  | cons control rest ih =>
    refine ih ?_
    unfold adjusted
    dsimp only
    cases replaced : (PortParameter.ofSelector? (control >>> 5)).bind fun parameter =>
        port.set? parameter (control &&& 0x10 != 0) (control &&& 0x0f) with
    | none => exact made
    | some changed =>
      obtain ⟨parameter, _, set⟩ := Option.bind_eq_some_iff.mp replaced
      exact made.set set

/-- The control byte for the code at a place. -/
def control (place : Fin 8) (code : UInt8) : UInt8 :=
  (owner place).1.controlByte (owner place).2 code

/-- **A control byte is read as it was written.** -/
theorem control_read (place : Fin 8) (code : UInt8) :
    place? (control place code) = some place ∧ control place code &&& 0x0f = code &&& 0x0f := by
  have every : ∀ place : Fin 8, ∀ bits : BitVec 8, place? (control place ⟨bits⟩) = some place ∧
      control place ⟨bits⟩ &&& 0x0f = (⟨bits⟩ : UInt8) &&& 0x0f := by decide +kernel
  exact every place code.toBitVec

theorem adjusted_control {code : UInt8} (small : code ≤ maxCode) (port : PortCodes)
    (place : Fin 8) :
    port.adjusted (control place code) = ⟨port.codes.set place code place.isLt⟩ := by
  obtain ⟨here, low⟩ := control_read place code
  rw [adjusted_eq, here, low, and_of_le small]

/-! ### What is sent -/

/-- The control byte for a place whose code differs. -/
def change? (wanted current : PortCodes) (place : Fin 8) : Option UInt8 :=
  if wanted.codes.get place = current.codes.get place then none
  else some (control place (wanted.codes.get place))

theorem change?_of_eq {place : Fin 8}
    (same : wanted.codes.get place = current.codes.get place) :
    change? wanted current place = none :=
  if_pos same

theorem change?_of_ne {place : Fin 8}
    (other : wanted.codes.get place ≠ current.codes.get place) :
    change? wanted current place = some (control place (wanted.codes.get place)) :=
  if_neg other

/-- What is sent, place by place. -/
theorem changes_eq (wanted current : PortCodes) :
    wanted.changes current = (List.finRange 8).filterMap (change? wanted current) := by
  have places : PortParameter.order.zip (wanted.codes.toList.zip current.codes.toList) =
      (List.finRange 8).map fun place =>
        (owner place, (wanted.codes.get place, current.codes.get place)) := by
    refine List.ext_getElem (by simp [PortParameter.order]) fun place _ _ => ?_
    simp only [List.getElem_zip, List.getElem_map, List.getElem_finRange, Vector.getElem_toList]
    rfl
  rw [changes, places, List.filterMap_map]
  rfl

/-- No control byte spoils a code that is the wanted one. -/
theorem get_foldl_of_wanted (fits : ∀ place, wanted.codes.get place ≤ maxCode)
    (places : List (Fin 8)) {other : Fin 8}
    (reached : port.codes.get other = wanted.codes.get other) :
    ((places.filterMap (change? wanted current)).foldl adjusted port).codes.get other =
      wanted.codes.get other := by
  induction places generalizing port with
  | nil => exact reached
  | cons place rest ih =>
    by_cases same : wanted.codes.get place = current.codes.get place
    · rw [List.filterMap_cons_none (change?_of_eq same)]
      exact ih reached
    · rw [List.filterMap_cons_some (change?_of_ne same), List.foldl_cons,
        adjusted_control (fits place)]
      refine ih ?_
      rw [get_set]
      split
      · next here => rw [here]
      · exact reached

/-- After the control bytes for some places the codes there are the wanted ones. -/
theorem get_foldl_adjusted (fits : ∀ place, wanted.codes.get place ≤ maxCode)
    {places : List (Fin 8)} {other : Fin 8} (member : other ∈ places)
    (present : port.codes.get other = current.codes.get other) :
    ((places.filterMap (change? wanted current)).foldl adjusted port).codes.get other =
      wanted.codes.get other := by
  induction places generalizing port with
  | nil => exact absurd member List.not_mem_nil
  | cons place rest ih =>
    by_cases same : wanted.codes.get place = current.codes.get place
    · rw [List.filterMap_cons_none (change?_of_eq same)]
      rcases List.mem_cons.mp member with rfl | later
      · exact get_foldl_of_wanted fits rest (present.trans same.symm)
      · exact ih later present
    · rw [List.filterMap_cons_some (change?_of_ne same), List.foldl_cons,
        adjusted_control (fits place)]
      by_cases here : other = place
      · refine get_foldl_of_wanted fits rest ?_
        rw [get_set, if_pos here, here]
      · refine ih ((List.mem_cons.mp member).resolve_left here) ?_
        rw [get_set, if_neg here]
        exact present

/-- **The reader of control bytes ends with the wanted codes.** -/
theorem foldl_adjusted_changes (made : wanted.Made) (current : PortCodes) :
    (wanted.changes current).foldl adjusted current = wanted := by
  have every (place : Fin 8) :
      ((wanted.changes current).foldl adjusted current).codes.get place =
        wanted.codes.get place := by
    rw [changes_eq]
    exact get_foldl_adjusted made.fits (List.mem_finRange place) rfl
  generalize (wanted.changes current).foldl adjusted current = reached at every
  obtain ⟨codes⟩ := reached
  obtain ⟨aims⟩ := wanted
  exact congrArg PortCodes.mk (Vector.ext fun place inside => every ⟨place, inside⟩)

/-- **There is one control byte for each code that differs**, and none for the others. -/
theorem map_place?_changes (wanted current : PortCodes) :
    (wanted.changes current).map place? =
      ((List.finRange 8).filter fun place =>
        wanted.codes.get place ≠ current.codes.get place).map some := by
  rw [changes_eq]
  generalize List.finRange 8 = places
  induction places with
  | nil => rfl
  | cons place rest ih =>
    by_cases same : wanted.codes.get place = current.codes.get place
    · rw [List.filterMap_cons_none (change?_of_eq same), ih,
        List.filter_cons_of_neg (by simp [same])]
    · rw [List.filterMap_cons_some (change?_of_ne same), List.map_cons, ih,
        List.filter_cons_of_pos (by simp [same]), List.map_cons, (control_read place _).1]

/-- A control byte for each of the eight codes is the most. -/
theorem length_changes_le (wanted current : PortCodes) : (wanted.changes current).length ≤ 8 := by
  rw [changes_eq]
  exact List.length_filterMap_le _ _

/-- Nothing is sent for equal codes. -/
theorem changes_eq_nil_iff : wanted.changes current = [] ↔ wanted = current := by
  refine ⟨eq_of_changes, ?_⟩
  rintro rfl
  rw [changes_eq, List.filterMap_eq_nil_iff]
  exact fun place _ => change?_of_eq rfl

end PortCodes

namespace Chip

variable {σ ε α : Type} {link : ChipLink σ ε}

/-! ### What is written -/

/-- What happens on the way to a chip while its codes are changed to the wanted ones. Nothing is
written for equal codes. Otherwise one write holds all control bytes, and the codes are read if the
chip took it. -/
inductive Sends (wanted current : PortCodes) : List Note → Prop
  | nothing (same : wanted = current) : Sends wanted current []
  | refused (other : wanted ≠ current) :
    Sends wanted current [.write 0x18 (0xc3 :: wanted.changes current) none]
  | taken (other : wanted ≠ current) (answer : Option (Vector UInt8 8)) :
    Sends wanted current [.write 0x18 (0xc3 :: wanted.changes current) (some ()),
      .writeRead 0x18 [0xe1, 0xb4] 8 answer]

theorem leads_sends (link : ChipLink σ ε) (wanted current : PortCodes) :
    Leads (Held fun _ notes => notes = []) (correctPort link.noted wanted current)
      (fun _ => Held fun _ notes => Sends wanted current notes.reverse)
      (Held fun _ notes => Sends wanted current notes.reverse) := by
  unfold correctPort
  dsimp only
  split
  · next empty =>
    refine Action.leads_pure fun state start => ?_
    rw [Held, show state.2.2 = [] from start]
    exact .nothing (PortCodes.eq_of_changes (List.isEmpty_iff.mp empty))
  · next more =>
    have other : wanted ≠ current :=
      mt PortCodes.changes_eq_nil_iff.mpr (mt List.isEmpty_iff.mpr more)
    refine Action.leads_bind (fun _ => Held fun _ notes =>
        notes = [.write 0x18 (0xc3 :: wanted.changes current) (some ())])
      (leads_transfer _ _ (fun _ _ _ start => congrArg _ start)
        fun _ _ start => start ▸ .refused other) fun _ => ?_
    refine Action.leads_bind (fun _ => Held fun _ notes => Sends wanted current notes.reverse) ?_
      fun confirmed => ?_
    · refine Action.leads_bind (fun _ => Held fun _ notes => Sends wanted current notes.reverse)
        (leads_register _ _ (fun _ _ bytes written => ?_) fun _ _ written => ?_) fun _ =>
          Action.leads_pure fun _ here => here
      · exact written ▸ .taken other (some bytes)
      · exact written ▸ .taken other none
    · split
      · exact Action.leads_pure fun _ here => here
      · exact Action.leads_fail fun _ here => here

/-- **What is written to change codes**, whatever the two-wire bus does. -/
theorem correctPort_sends (wanted current : PortCodes) (chip : Chip) (line : σ) :
    ∃ made, ((correctPort link.noted wanted current).perform (chip, (line, []))).2.2.2 =
      made.reverse ∧ Sends wanted current made := by
  have ended := leads_sends link wanted current (chip, (line, [])) rfl
  generalize (correctPort link.noted wanted current).perform (chip, (line, [])) = performed
    at ended ⊢
  obtain ⟨error | _, reached, left, notes⟩ := performed
  · exact ⟨notes.reverse, notes.reverse_reverse.symm, ended⟩
  · exact ⟨notes.reverse, notes.reverse_reverse.symm, ended⟩

end Chip

/-! ### Faithful chips -/

/-- A chip that has some port codes. It applies the control bytes that it takes, one after the
other, and reports the codes as they are. Everything else may do anything to them. -/
structure ChipLink.Faithful {σ ε : Type} (link : ChipLink σ ε) (codes : σ → PortCodes) : Prop where
  applies : ∀ controls line after,
    (link.bus.write 0x18 (0xc3 :: controls)).perform line = (.ok (), after) →
      codes after = controls.foldl PortCodes.adjusted (codes line)
  reports : ∀ line answer after,
    (link.bus.writeRead 0x18 [0xe1, 0xb4] 8).perform line = (.ok answer, after) →
      PortCodes.ofBytes answer = codes line ∧ codes after = codes line

namespace Chip

variable {σ ε α : Type} {link : ChipLink σ ε} {codes : σ → PortCodes} {action : Action σ ε α}

theorem transfer_ok {chip : Chip} {line : σ} {value : α} {after : Chip × σ}
    (ran : (transfer action).perform (chip, line) = (.ok value, after)) :
    action.perform line = (.ok value, after.2) := by
  have outcome : ((action.mapError ChipError.i2c).perform line).1 = .ok value :=
    congrArg (·.1) ran
  have reached : ((action.mapError ChipError.i2c).perform line).2 = after.2 := congrArg (·.2.2) ran
  exact Action.mapError_ok (Prod.ext outcome reached)

/-- Only a comparison of codes refuses them. -/
theorem accepts_transfer : FailsOnly (fun _ => True) (· ≠ .portRefused) (transfer action) := by
  have renamed : FailsOnly (fun _ : σ => True) (· ≠ .portRefused)
      (action.mapError ChipError.i2c) :=
    Action.failsOnly_rename fun _ => nofun
  exact Action.failsOnly_onSecond renamed

theorem accepts_readPort : FailsOnly (fun _ => True) (· ≠ .portRefused) (readPort link) :=
  Action.failsOnly_bind accepts_transfer fun _ => Action.failsOnly_pure _

theorem accepts_poll (done : ChipStatus → Bool) (left : Nat) :
    FailsOnly (fun _ => True) (· ≠ .portRefused) (poll link done left) := by
  induction left with
  | zero => exact Action.failsOnly_fail nofun
  | succ left ih =>
    refine Action.failsOnly_bind accepts_transfer fun bytes => ?_
    split
    · exact Action.failsOnly_pure _
    · exact Action.failsOnly_bind Action.failsOnly_update fun _ => ih

theorem accepts_resetChip : FailsOnly (fun _ => True) (· ≠ .portRefused) (resetChip link) := by
  refine Action.failsOnly_bind accepts_transfer fun _ => ?_
  refine Action.failsOnly_bind Action.failsOnly_update fun _ => ?_
  exact Action.failsOnly_current_bind fun _ _ => (accepts_poll _ _).of_imp fun _ _ => trivial

theorem accepts_configure (config : ChipConfig) :
    FailsOnly (fun _ => True) (· ≠ .portRefused) (configure link config) := by
  refine Action.failsOnly_bind accepts_transfer fun echo => ?_
  split
  · exact Action.failsOnly_fail nofun
  · exact Action.failsOnly_update

section Faithful

variable (faithful : link.Faithful codes)

include faithful

theorem readPort_faithful {state after : Chip × σ} {port : PortCodes}
    (ran : (readPort link).perform state = (.ok port, after)) :
    port.Made ∧ codes state.2 = port ∧ codes after.2 = port := by
  obtain ⟨bytes, reached, read, done⟩ := Action.bind_ok ran
  obtain ⟨rfl, rfl⟩ := Action.pure_ok done
  obtain ⟨reported, kept⟩ := faithful.reports _ _ _ (transfer_ok read)
  exact ⟨.ofBytes bytes, reported.symm, kept.trans reported.symm⟩

/-- **A faithful chip takes all codes**, if the driver knows the current ones. -/
theorem accepts_correctPort {wanted current : PortCodes} (made : wanted.Made) :
    FailsOnly (fun state => codes state.2 = current) (· ≠ .portRefused)
      (correctPort link wanted current) := by
  unfold correctPort
  dsimp only
  split
  · exact Action.failsOnly_pure _
  · intro state known error after ran
    rcases Action.bind_error ran with failed | ⟨_, written, wrote, rest⟩
    · exact accepts_transfer state trivial error after failed
    rcases Action.bind_error rest with failed | ⟨confirmed, _, read, ended⟩
    · exact accepts_readPort written trivial error after failed
    · have applied := faithful.applies _ _ _ (transfer_ok wrote)
      obtain ⟨_, reported, _⟩ := readPort_faithful faithful read
      rw [known, PortCodes.foldl_adjusted_changes made, reported] at applied
      rw [if_pos applied] at ended
      exact absurd ended Action.not_pure_error

theorem accepts_changePort (parameter : PortParameter) (overdrive : Bool) (code : UInt8) :
    FailsOnly (fun _ => True) (· ≠ .portRefused) (changePort link parameter overdrive code) := by
  unfold changePort
  split
  · exact Action.failsOnly_fail nofun
  · intro state _ error after ran
    rcases Action.bind_error ran with failed | ⟨current, known, read, rest⟩
    · exact accepts_readPort state trivial error after failed
    obtain ⟨fits, _, same⟩ := readPort_faithful faithful read
    cases replaced : current.set? parameter overdrive code with
    | none =>
      rw [replaced] at rest
      obtain rfl := Except.error.inj (congrArg Prod.fst rest)
      nofun
    | some wanted =>
      rw [replaced] at rest
      rcases Action.bind_error rest with failed | ⟨_, corrected, _, last⟩
      · exact accepts_correctPort faithful (fits.set replaced) known same error after failed
      · exact nomatch (congrArg Prod.fst last : Except.ok () = Except.error error)

theorem accepts_setUp {settings : ChipSettings} (made : settings.port.Made) :
    FailsOnly (fun _ => True) (· ≠ .portRefused) (setUp link settings) := by
  refine Action.failsOnly_bind accepts_resetChip fun _ => ?_
  refine Action.failsOnly_bind (accepts_configure _) fun _ => ?_
  intro state _ error after ran
  rcases Action.bind_error ran with failed | ⟨current, known, read, rest⟩
  · exact accepts_readPort state trivial error after failed
  obtain ⟨_, _, same⟩ := readPort_faithful faithful read
  exact accepts_correctPort faithful made known same error after rest

theorem accepts_build {settings : ChipSettings} (made : settings.port.Made) (line : σ) :
    ((build link settings).perform line).1 ≠ .error .portRefused := by
  have accepts := accepts_setUp faithful made (fresh settings, line) trivial .portRefused
  rw [build, Action.perform_ofStep]
  generalize (setUp link settings).perform (fresh settings, line) = performed at accepts ⊢
  obtain ⟨error | _, reached⟩ := performed
  · intro refused
    obtain rfl : error = .portRefused := Except.error.inj refused
    exact accepts reached rfl rfl
  · exact nofun

end Faithful

/-- **Port codes are sent completely and minimally.** A reader of the control bytes ends with the
wanted codes. There is one control byte for each code that differs, in the order of the codes, and
with the command they are nine bytes at most. They go out in one write, and there is none for equal
codes. So a chip that reads control bytes in this way and reports its codes as they are never
refuses them. -/
theorem changes_encode (link : ChipLink σ ε) {wanted : PortCodes} (made : wanted.Made)
    (current : PortCodes) :
    (wanted.changes current).foldl PortCodes.adjusted current = wanted ∧
      (wanted.changes current).map PortCodes.place? =
        ((List.finRange 8).filter fun place =>
          wanted.codes.get place ≠ current.codes.get place).map some ∧
      (adjustPortCommand :: wanted.changes current).length ≤ 9 ∧
      (∀ chip line, ∃ notes,
        ((correctPort link.noted wanted current).perform (chip, (line, []))).2.2.2 =
          notes.reverse ∧ Sends wanted current notes) ∧
      ∀ codes, link.Faithful codes →
        (∀ settings line, settings.port = wanted →
          ((build link settings).perform line).1 ≠ .error .portRefused) ∧
        ∀ parameter overdrive code state,
          ((changePort link parameter overdrive code).perform state).1 ≠ .error .portRefused := by
  refine ⟨PortCodes.foldl_adjusted_changes made current,
    PortCodes.map_place?_changes wanted current,
    Nat.succ_le_succ (PortCodes.length_changes_le wanted current),
    correctPort_sends wanted current, fun codes faithful => ⟨?_, ?_⟩⟩
  · rintro settings line rfl
    exact accepts_build faithful made line
  · intro parameter overdrive code state refused
    exact accepts_changePort faithful parameter overdrive code state trivial .portRefused
      ((changePort link parameter overdrive code).perform state).2 (Prod.ext refused rfl) rfl

/-- A chip that does at once what it is told. -/
def obedient : ChipLink { port : PortCodes // port.Made } Empty where
  bus := {
    read _ count := pure (Vector.replicate count 0x18)
    write _ bytes := Action.update fun port =>
      match bytes with
      | [0xf0] => ⟨.powerOn, .powerOn⟩
      | 0xc3 :: controls => ⟨controls.foldl PortCodes.adjusted port.1, port.2.foldl controls⟩
      | _ => port
    writeRead _ bytes count := Action.ofStep fun port =>
      match bytes with
      | [0xe1, 0xb4] => (.ok (Vector.ofFn fun place => (port.1.codes[place.val]?).getD 0), port)
      | _ => (.ok (Vector.replicate count (bytes.getLastD 0 &&& 0x0f)), port)
    transaction _ _ := pure [] }
  pause _ port := port

theorem obedient_faithful : obedient.Faithful Subtype.val where
  applies controls line after ran := by
    obtain rfl : _ = after := congrArg Prod.snd ran
    rfl
  reports line answer after ran := by
    obtain ⟨rfl, rfl⟩ : _ = answer ∧ line = after :=
      ⟨Except.ok.inj (congrArg Prod.fst ran), congrArg Prod.snd ran⟩
    exact ⟨line.2.ofBytes_eq, rfl⟩

/-- Two codes of an obedient chip are changed from those of power-on, and then a third one. -/
theorem changes_encode_obedient :
    let wanted : PortCodes := .ofBytes #v[6, 6, 6, 6, 2, 6, 6, 15]
    let line : { port : PortCodes // port.Made } := ⟨.powerOn, .powerOn⟩
    let settings : ChipSettings := ⟨10, .ofPullups true false, wanted⟩
    wanted.Made ∧ obedient.Faithful Subtype.val ∧
      wanted.changes .powerOn = [0x42, 0x8f] ∧
      [0x42, 0x8f].foldl PortCodes.adjusted .powerOn = wanted ∧
      ((build obedient settings).perform line).1 ≠ .error .portRefused ∧
      ((build obedient settings).perform line).1.toOption = some ⟨10, false, wanted⟩ ∧
      ((changePort obedient .resetLow true 3).perform (⟨10, false, wanted⟩, line)).1 ≠
        .error .portRefused := by
  intro wanted line settings
  obtain ⟨reached, _, _, _, accepts⟩ :=
    changes_encode obedient (.ofBytes #v[6, 6, 6, 6, 2, 6, 6, 15] : wanted.Made) .powerOn
  obtain ⟨builds, changes⟩ := accepts Subtype.val obedient_faithful
  have sent : wanted.changes .powerOn = [0x42, 0x8f] := by decide +kernel
  rw [sent] at reached
  exact ⟨.ofBytes _, obedient_faithful, sent, reached, builds settings line rfl, by decide +kernel,
    changes _ _ _ _⟩

end Chip

end WireBridge
