/-
**Notes about a two-wire bus change nothing.**

Notes are kept beside the state of a bus, and nobody looks at them. So a driver does with them what
it does without, and what was noted before does not matter for what comes next.

* `I2c.Mirrors`, `ChipLink.Mirrors`: buses and links that do the same on a view of their state;
* `I2c.traced_mirrors`: **a bus with notes** does what it does without;
* `I2c.traced_appends`: earlier notes are kept below the later ones;
* `Mux.mirrors_channel`, `Chip.mirrors_build`, `ChipBank.mirrors_setUp`: and so do all drivers.
-/

import WireBridge.Chip.Bank
import WireBridge.I2c.Trace
import WireBridge.Proofs.Action

namespace WireBridge

variable {τ σ ε ν α : Type} {view : τ → σ}

/-! ### Buses -/

/-- Two buses of which the second one does on a view of the state what the first one does on the
state. -/
structure I2c.Mirrors (view : τ → σ) (first : I2c τ ε) (second : I2c σ ε) : Prop where
  read : ∀ peer count, Action.Mirrors view (first.read peer count) (second.read peer count)
  write : ∀ peer bytes, Action.Mirrors view (first.write peer bytes) (second.write peer bytes)
  writeRead : ∀ peer bytes count,
    Action.Mirrors view (first.writeRead peer bytes count) (second.writeRead peer bytes count)
  transaction : ∀ peer operations,
    Action.Mirrors view (first.transaction peer operations) (second.transaction peer operations)

/-- **A bus with notes** does what it does without. -/
theorem I2c.traced_mirrors (note : Transfer → ν) (bus : I2c σ ε) :
    I2c.Mirrors Prod.fst (bus.traced note) bus :=
  ⟨fun _ _ _ => rfl, fun _ _ _ => rfl, fun _ _ _ _ => rfl, fun _ _ _ => rfl⟩

/-- Earlier notes are kept below the later ones. -/
theorem I2c.traced_appends (note : Transfer → ν) (bus : I2c σ ε) (earlier : List ν) :
    I2c.Mirrors (fun state => (state.1, state.2 ++ earlier)) (bus.traced note)
      (bus.traced note) :=
  ⟨fun _ _ _ => rfl, fun _ _ _ => rfl, fun _ _ _ _ => rfl, fun _ _ _ => rfl⟩

/-! ### A switch and its channels -/

namespace Mux

/-- The driver of a switch beside a view of the line. -/
def beside (view : τ → σ) (state : Mux × τ) : Mux × σ := (state.1, view state.2)

theorem mirrors_requireFound :
    Action.Mirrors (beside view) (requireFound : Action (Mux × τ) (MuxError ε) Mux)
      requireFound := by
  refine Action.mirrors_current_bind fun (mux, line) => ?_
  dsimp only [beside]
  cases mux.initialized with
  | true => exact Action.mirrors_pure mux
  | false => exact Action.mirrors_fail MuxError.notInitialized

theorem mirrors_pass {first : Action τ ε α} {second : Action σ ε α}
    (mirrors : Action.Mirrors view first second) :
    Action.Mirrors (beside view) (pass first) (pass second) :=
  Action.mirrors_onSecond (Action.mirrors_mapError mirrors)

variable {first : I2c τ ε} {second : I2c σ ε} (mirrors : I2c.Mirrors view first second)

include mirrors

theorem mirrors_probe : Action.Mirrors (beside view) (probe first) (probe second) :=
  Action.mirrors_current_bind fun _ =>
    Action.mirrors_bind (mirrors_pass (mirrors.read _ 1)) fun register =>
      Action.mirrors_bind (Action.mirrors_update fun _ => rfl) fun _ =>
        Action.mirrors_pure register.head

theorem mirrors_onChannel (channel : UInt8) {transfer : Action τ ε α} {other : Action σ ε α}
    (same : Action.Mirrors view transfer other) :
    Action.Mirrors (beside view) (onChannel first channel transfer)
      (onChannel second channel other) := by
  have selects : Action.Mirrors (beside view) (select first channel) (select second channel) := by
    unfold select
    split
    · exact Action.mirrors_fail (MuxError.invalidChannel channel)
    · exact Action.mirrors_bind mirrors_requireFound fun _ => mirrors_pass (mirrors.write _ _)
  exact Action.mirrors_bind selects fun _ =>
    Action.mirrors_bind mirrors_requireFound fun _ => mirrors_pass same

theorem mirrors_channel (number : UInt8) :
    I2c.Mirrors (beside view) (channel first number) (channel second number) where
  read peer count := mirrors_onChannel mirrors number (mirrors.read peer count)
  write peer bytes := mirrors_onChannel mirrors number (mirrors.write peer bytes)
  writeRead peer bytes count :=
    mirrors_onChannel mirrors number (mirrors.writeRead peer bytes count)
  transaction peer operations :=
    mirrors_onChannel mirrors number (mirrors.transaction peer operations)

end Mux

/-! ### Chips -/

/-- Two links of which the second one does on a view of the state what the first one does on the
state. -/
structure ChipLink.Mirrors (view : τ → σ) (first : ChipLink τ ε) (second : ChipLink σ ε) :
    Prop where
  bus : I2c.Mirrors view first.bus second.bus
  pause : ∀ milliseconds state,
    second.pause milliseconds (view state) = view (first.pause milliseconds state)

namespace Chip

/-- What the driver knows beside a view of the line. -/
def beside (view : τ → σ) (state : Chip × τ) : Chip × σ := (state.1, view state.2)

theorem mirrors_transfer {first : Action τ ε α} {second : Action σ ε α}
    (mirrors : Action.Mirrors view first second) :
    Action.Mirrors (beside view) (transfer first) (transfer second) :=
  Action.mirrors_onSecond (Action.mirrors_mapError mirrors)

variable {first : ChipLink τ ε} {second : ChipLink σ ε}
  (mirrors : ChipLink.Mirrors view first second)

include mirrors

theorem mirrors_poll (done : ChipStatus → Bool) (left : Nat) :
    Action.Mirrors (beside view) (poll first done left) (poll second done left) := by
  induction left with
  | zero => exact Action.mirrors_fail ChipError.timeout
  | succ left ih =>
    refine Action.mirrors_bind (mirrors_transfer (mirrors.bus.read _ 1)) fun bytes => ?_
    split
    · exact Action.mirrors_pure _
    · refine Action.mirrors_bind (Action.mirrors_update fun state => ?_) fun _ => ih
      exact congrArg (Prod.mk state.1) (mirrors.pause 1 state.2)

theorem mirrors_resetChip :
    Action.Mirrors (beside view) (resetChip first) (resetChip second) :=
  Action.mirrors_bind (mirrors_transfer (mirrors.bus.write _ _)) fun _ =>
    Action.mirrors_bind (Action.mirrors_update fun _ => rfl) fun _ =>
      Action.mirrors_current_bind fun _ => mirrors_poll mirrors _ _

theorem mirrors_configure (config : ChipConfig) :
    Action.Mirrors (beside view) (configure first config) (configure second config) := by
  refine Action.mirrors_bind (mirrors_transfer (mirrors.bus.writeRead _ _ 1)) fun echo => ?_
  split
  · exact Action.mirrors_fail ChipError.configRefused
  · exact Action.mirrors_update fun _ => rfl

theorem mirrors_readPort : Action.Mirrors (beside view) (readPort first) (readPort second) :=
  Action.mirrors_bind (mirrors_transfer (mirrors.bus.writeRead _ _ 8)) fun bytes =>
    Action.mirrors_pure (PortCodes.ofBytes bytes)

theorem mirrors_correctPort (wanted current : PortCodes) :
    Action.Mirrors (beside view) (correctPort first wanted current)
      (correctPort second wanted current) := by
  unfold correctPort
  dsimp only
  split
  · exact Action.mirrors_pure ()
  · refine Action.mirrors_bind (mirrors_transfer (mirrors.bus.write _ _)) fun _ => ?_
    refine Action.mirrors_bind (mirrors_readPort mirrors) fun confirmed => ?_
    split
    · exact Action.mirrors_pure ()
    · exact Action.mirrors_fail ChipError.portRefused

theorem mirrors_setUp (settings : ChipSettings) :
    Action.Mirrors (beside view) (setUp first settings) (setUp second settings) :=
  Action.mirrors_bind (mirrors_resetChip mirrors) fun _ =>
    Action.mirrors_bind (mirrors_configure mirrors _) fun _ =>
      Action.mirrors_bind (mirrors_readPort mirrors) fun current =>
        mirrors_correctPort mirrors settings.port current

theorem mirrors_build (settings : ChipSettings) :
    Action.Mirrors view (build first settings) (build second settings) := by
  intro line
  rw [build, build, Action.perform_ofStep, Action.perform_ofStep]
  have same := mirrors_setUp mirrors settings (fresh settings, line)
  rw [beside] at same
  rw [same]
  rfl

end Chip

/-! ### Chips behind a switch -/

namespace ChipBank

variable {first : I2c τ ε} {second : I2c σ ε} {wait : Nat → τ → τ} {pause : Nat → σ → σ}
  (mirrors : I2c.Mirrors view first second)
  (waits : ∀ milliseconds line, pause milliseconds (view line) = view (wait milliseconds line))

include mirrors waits

theorem mirrors_link (id : ChannelId) :
    ChipLink.Mirrors (Mux.beside view) (link first wait id) (link second pause id) where
  bus := Mux.mirrors_channel mirrors (id - 1)
  pause milliseconds state := congrArg (Prod.mk state.1) (waits milliseconds state.2)

theorem build_mirrors (config : Config) (port : PortCodes) (ids : List ChannelId)
    (state : Mux × τ) :
    build second pause config port ids (Mux.beside view state) =
      ((build first wait config port ids state).1,
        Mux.beside view (build first wait config port ids state).2) := by
  induction ids generalizing state with
  | nil => rfl
  | cons id rest ih =>
    rw [build, build]
    split
    · dsimp only
      rw [Chip.mirrors_build (mirrors_link mirrors waits id) _ state]
      rcases (Chip.build (link first wait id) _).perform state with ⟨error | chip, reached⟩
      · exact ih reached
      · dsimp only
        rw [ih reached]
    · exact ih state

theorem mirrors_setUp (config : Config) :
    Action.Mirrors (Mux.beside view) (setUp first wait config) (setUp second pause config) := by
  refine Action.mirrors_bind (Action.mirrors_mapError (Mux.mirrors_probe mirrors)) fun _ => ?_
  cases config.timing.port? with
  | none => exact Action.mirrors_fail BankError.invalidTiming
  | some port =>
    intro state
    dsimp only
    rw [Action.perform_ofStep, Action.perform_ofStep, build_mirrors mirrors waits]

end ChipBank

end WireBridge
