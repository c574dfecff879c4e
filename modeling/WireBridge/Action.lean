/-
**Stateful computations that may fail.**

Everything that talks to hardware changes a state and may stop with an error. An `Action` is such a
computation; its main feature is that an error keeps the state reached so far, because the hardware
has seen whatever happened before the failure.

* `Action.perform`: an action from a state, giving its outcome and the state it leaves;
* `Action.attempt`: the outcome of an action as a value, so that a caller can go on after an error;
* `Action.onFirst`, `Action.onSecond`: an action on one half of a paired state.
-/

namespace WireBridge

/-- A computation on a state `σ` that yields `α` or fails with `ε`; a failure keeps the state. -/
abbrev Action (σ ε α : Type) := ExceptT ε (StateM σ) α

namespace Action

variable {σ τ ε ε' α β : Type}

/-- The outcome of an action and the state it leaves. -/
def perform (action : Action σ ε α) (state : σ) : Except ε α × σ :=
  action.run.run state

/-- The action with a given outcome and final state for every initial state. -/
def ofStep (step : σ → Except ε α × σ) : Action σ ε α :=
  ExceptT.mk fun state => step state

/-- Read the state. -/
def current : Action σ ε σ :=
  ofStep fun state => (.ok state, state)

/-- Change the state. -/
def update (change : σ → σ) : Action σ ε Unit :=
  ofStep fun state => (.ok (), change state)

/-- Stop with an error. -/
def fail (error : ε) : Action σ ε α :=
  ofStep fun state => (.error error, state)

/-- The outcome of an action as a value. -/
def attempt (action : Action σ ε α) : Action σ ε' (Except ε α) :=
  ofStep fun state => (.ok (action.perform state).1, (action.perform state).2)

/-- Rename the errors of an action. -/
def mapError (rename : ε → ε') (action : Action σ ε α) : Action σ ε' α :=
  ofStep fun state => ((action.perform state).1.mapError rename, (action.perform state).2)

/-- An action on the first half of a paired state. -/
def onFirst (action : Action σ ε α) : Action (σ × τ) ε α :=
  ofStep fun state =>
    let (outcome, first) := action.perform state.1
    (outcome, (first, state.2))

/-- An action on the second half of a paired state. -/
def onSecond (action : Action τ ε α) : Action (σ × τ) ε α :=
  ofStep fun state =>
    let (outcome, second) := action.perform state.2
    (outcome, (state.1, second))

/-- An outcome that is already known. -/
def ofExcept (outcome : Except ε α) : Action σ ε α :=
  ofStep fun state => (outcome, state)

/-- Do an action once for each item, in order, stopping at the first error. -/
def forEach (items : List β) (action : β → Action σ ε Unit) : Action σ ε Unit :=
  match items with
  | [] => pure ()
  | item :: rest => do
    action item
    forEach rest action

/-- The results of an action done `count` times, in order. -/
def collect (count : Nat) (action : Action σ ε α) : Action σ ε (Vector α count) :=
  match count with
  | 0 => pure #v[]
  | before + 1 => do
    let earlier ← collect before action
    let last ← action
    pure (earlier.push last)

/-! ### Outcomes -/

/-- Actions with the same outcomes and final states are the same. -/
theorem ext {first second : Action σ ε α}
    (same : ∀ state, first.perform state = second.perform state) : first = second :=
  funext same

@[simp] theorem perform_pure (value : α) (state : σ) :
    (pure value : Action σ ε α).perform state = (.ok value, state) := rfl

@[simp] theorem perform_ofStep (step : σ → Except ε α × σ) (state : σ) :
    (ofStep step).perform state = step state := rfl

@[simp] theorem perform_current (state : σ) :
    (current : Action σ ε σ).perform state = (.ok state, state) := rfl

@[simp] theorem perform_update (change : σ → σ) (state : σ) :
    (update change : Action σ ε Unit).perform state = (.ok (), change state) := rfl

@[simp] theorem perform_fail (error : ε) (state : σ) :
    (fail error : Action σ ε α).perform state = (.error error, state) := rfl

@[simp] theorem perform_attempt (action : Action σ ε α) (state : σ) :
    (attempt action : Action σ ε' (Except ε α)).perform state =
      (.ok (action.perform state).1, (action.perform state).2) := rfl

@[simp] theorem perform_mapError (rename : ε → ε') (action : Action σ ε α) (state : σ) :
    (mapError rename action).perform state =
      ((action.perform state).1.mapError rename, (action.perform state).2) := rfl

@[simp] theorem perform_onFirst (action : Action σ ε α) (first : σ) (second : τ) :
    (onFirst action).perform (first, second) =
      ((action.perform first).1, ((action.perform first).2, second)) := rfl

@[simp] theorem perform_onSecond (action : Action τ ε α) (first : σ) (second : τ) :
    (onSecond action).perform (first, second) =
      ((action.perform second).1, (first, (action.perform second).2)) := rfl

@[simp] theorem perform_ofExcept (outcome : Except ε α) (state : σ) :
    (ofExcept outcome).perform state = (outcome, state) := rfl

/-- What follows an action sees its result, or is skipped after an error. -/
@[simp] theorem perform_bind (action : Action σ ε α) (next : α → Action σ ε β) (state : σ) :
    (action >>= next).perform state =
      match action.perform state with
      | (.ok value, reached) => (next value).perform reached
      | (.error error, reached) => (.error error, reached) := by
  show (ExceptT.bindCont next (action.run.run state).1).run (action.run.run state).2 = _
  unfold perform
  rcases action.run.run state with ⟨outcome | outcome, reached⟩ <;> rfl

end Action

/-- The texts of an error: a diagnostic name, which shows the cause and its data, and a message. -/
class Diagnostic (ε : Type) where
  /-- The cause with its data. -/
  name : ε → String
  /-- The message for a reader. -/
  message : ε → String

end WireBridge
