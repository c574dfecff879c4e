/-
**What a schedule of faults does to an action.**

Hardware under a schedule does what it does without one, up to the first call that fails; nothing
after that call happens.

* `Faults.after`, `Faults.Calm`, `Faults.met`: calls that were made, calls without a fault, and the
  faults of the calls that were made;
* `Faults.Weathers`: an action under a schedule does the same as without one, or fails with the one
  fault that it met;
* `Faults.guard_weathers`, `Faults.Weathers.bind`, `Faults.Weathers.attempt_bind`: one call, and one
  action after another;
* `Faults.Interrupting`: a schedule whose faults nobody takes for an answer of the line.
-/

import WireBridge.Proofs.Action
import WireBridge.Sim.Faults

namespace WireBridge

namespace Faults

variable {σ τ ρ ε α β : Type}

/-! ### Calls -/

/-- The schedule after some more calls. -/
def after (faults : Faults ε) (spent : Nat) : Faults ε :=
  { faults with calls := faults.calls + spent }

/-- The next calls have no fault. -/
def Calm (faults : Faults ε) (spent : Nat) : Prop :=
  ∀ call, call < spent → faults.fault? (faults.calls + call) = none

/-- The faults of the next calls, up to the one with a number. -/
def met (faults : Faults ε) (reached : Nat) : List ε :=
  (List.range (reached - faults.calls)).filterMap fun call => faults.fault? (faults.calls + call)

theorem after_after (faults : Faults ε) (spent more : Nat) :
    (faults.after spent).after more = faults.after (spent + more) := by
  unfold after
  dsimp only
  rw [Nat.add_assoc]

theorem Calm.add {faults : Faults ε} {spent more : Nat} (calm : faults.Calm spent)
    (further : (faults.after spent).Calm more) : faults.Calm (spent + more) := by
  intro call below
  by_cases early : call < spent
  · exact calm call early
  · have here := further (call - spent) (by omega)
    have number : faults.calls + spent + (call - spent) = faults.calls + call := by omega
    simpa only [after, number] using here

/-- Calls without a fault meet none. -/
theorem Calm.met_eq {faults : Faults ε} {spent : Nat} (calm : faults.Calm spent) :
    faults.met (faults.after spent).calls = [] := by
  unfold met after
  rw [Nat.add_sub_cancel_left]
  exact List.filterMap_eq_nil_iff.mpr fun call within => calm call (List.mem_range.mp within)

/-- A fault after calls without one is the only one that they meet. -/
theorem Calm.met_struck {faults : Faults ε} {spent : Nat} (calm : faults.Calm spent) {fault : ε}
    (struck : faults.fault? (faults.calls + spent) = some fault) :
    faults.met (faults.after (spent + 1)).calls = [fault] := by
  have before := calm.met_eq
  unfold met after at before ⊢
  rw [Nat.add_sub_cancel_left] at before ⊢
  rw [List.range_succ, List.filterMap_append, before, List.nil_append, List.filterMap_cons, struck]
  rfl

/-! ### Actions -/

/-- What an action under a schedule does: the same as without one, if it meets no fault, or else it
fails with the first fault and leaves something with a given property. The schedule has its place in
the state. -/
inductive Weathers (place : Faults ε → τ → ρ) (faults : Faults ε) (clean : Except ε α × τ)
    (left : τ → Prop) (result : Except ε α × ρ) : Prop where
  /-- No call had a fault. -/
  | calm (spent : Nat) (none : faults.Calm spent)
      (same : result = (clean.1, place (faults.after spent) clean.2))
  /-- A call had a fault, and the calls before it had none. -/
  | struck (spent : Nat) (none : faults.Calm spent) (fault : ε)
      (some : faults.fault? (faults.calls + spent) = some fault) (reached : τ)
      (holds : left reached)
      (failed : result = (.error fault, place (faults.after (spent + 1)) reached))

variable {place : Faults ε → τ → ρ} {faults : Faults ε} {left wanted : τ → Prop}

theorem calm_zero (faults : Faults ε) : faults.Calm 0 :=
  fun call below => absurd below (Nat.not_lt_zero call)

/-- One call has its effect or none. -/
theorem guard_weathers (action : Action σ ε α) (faults : Faults ε) (state : σ) :
    Weathers Prod.mk faults (action.perform state) (· = state)
      ((guard action).perform (faults, state)) := by
  unfold guard
  rw [Action.perform_ofStep]
  dsimp only
  cases here : faults.fault? faults.calls with
  | none =>
    refine .calm 1 (fun call below => ?_) rfl
    obtain rfl : call = 0 := by omega
    exact here
  | some fault => exact .struck 0 faults.calm_zero fault here state rfl rfl

/-- What makes no call. -/
theorem Weathers.still (clean : Except ε α × τ) :
    Weathers place faults clean left (clean.1, place faults clean.2) :=
  .calm 0 faults.calm_zero rfl

theorem Weathers.mono {clean : Except ε α × τ} {result : Except ε α × ρ}
    (weathers : Weathers place faults clean left result)
    (weaker : ∀ state, left state → wanted state) :
    Weathers place faults clean wanted result := by
  cases weathers with
  | calm spent none same => exact .calm spent none same
  | struck spent none fault some reached holds failed =>
    exact .struck spent none fault some reached (weaker reached holds) failed

/-- Calls without a fault may go before. -/
theorem Weathers.later {spent : Nat} (none : faults.Calm spent) {clean : Except ε α × τ}
    {result : Except ε α × ρ} (weathers : Weathers place (faults.after spent) clean left result) :
    Weathers place faults clean left result := by
  cases weathers with
  | calm more further same =>
    rw [after_after] at same
    exact .calm (spent + more) (none.add further) same
  | struck more further fault some reached holds failed =>
    rw [after_after, ← Nat.add_assoc] at failed
    have here : faults.fault? (faults.calls + (spent + more)) = .some fault := by
      rw [← Nat.add_assoc]
      exact some
    exact .struck (spent + more) (none.add further) fault here reached holds failed

/-- **One action after another.** -/
theorem Weathers.bind {action : Action ρ ε α} {next : α → Action ρ ε β} {start : ρ}
    {cleanAction : Action τ ε α} {cleanNext : α → Action τ ε β} {state : τ}
    (first : Weathers place faults (cleanAction.perform state) left (action.perform start))
    (second : ∀ value middle, cleanAction.perform state = (.ok value, middle) → ∀ spent,
      Weathers place (faults.after spent) ((cleanNext value).perform middle) left
        ((next value).perform (place (faults.after spent) middle))) :
    Weathers place faults ((cleanAction >>= cleanNext).perform state) left
      ((action >>= next).perform start) := by
  rw [Action.perform_bind, Action.perform_bind]
  cases first with
  | calm spent none same =>
    rw [same]
    rcases performed : cleanAction.perform state with ⟨error | value, middle⟩
    · exact .calm spent none rfl
    · exact (second value middle performed spent).later none
  | struck spent none fault some reached holds failed =>
    rw [failed]
    exact .struck spent none fault some reached holds rfl

/-- **An action whose outcome is looked at**, if a fault is passed on. -/
theorem Weathers.attempt_bind {action : Action ρ ε α} {next : Except ε α → Action ρ ε β} {start : ρ}
    {cleanAction : Action τ ε α} {cleanNext : Except ε α → Action τ ε β} {state : τ}
    (first : Weathers place faults (cleanAction.perform state) left (action.perform start))
    (passedOn : ∀ call fault, faults.fault? call = some fault →
      next (.error fault) = Action.fail fault)
    (second : ∀ spent, Weathers place (faults.after spent)
      ((cleanNext (cleanAction.perform state).1).perform (cleanAction.perform state).2) left
      ((next (cleanAction.perform state).1).perform
        (place (faults.after spent) (cleanAction.perform state).2))) :
    Weathers place faults ((Action.attempt cleanAction >>= cleanNext).perform state) left
      ((Action.attempt action >>= next).perform start) := by
  rw [Action.perform_bind, Action.perform_bind, Action.perform_attempt, Action.perform_attempt]
  cases first with
  | calm spent none same =>
    rw [same]
    exact (second spent).later none
  | struck spent none fault some reached holds failed =>
    rw [failed]
    dsimp only
    rw [passedOn _ fault some]
    exact .struck spent none fault some reached holds rfl

/-- A schedule next to something else. -/
def beneath (faults : Faults ε) (state : τ × σ) : τ × Faults ε × σ :=
  (state.1, faults, state.2)

/-- An action next to something that it does not touch. -/
theorem Weathers.onSecond {action : Action (Faults ε × σ) ε α} {cleanAction : Action σ ε α}
    {kept : σ → Prop} {state : σ}
    (weathers : Weathers Prod.mk faults (cleanAction.perform state) kept
      (action.perform (faults, state))) (first : τ) :
    Weathers beneath faults ((Action.onSecond cleanAction).perform (first, state))
      (fun reached => reached.1 = first ∧ kept reached.2)
      ((Action.onSecond action).perform (first, faults, state)) := by
  rw [Action.perform_onSecond, Action.perform_onSecond]
  cases weathers with
  | calm spent none same => exact .calm spent none (by rw [same]; rfl)
  | struck spent none fault some reached holds failed =>
    exact .struck spent none fault some (first, reached) ⟨rfl, holds⟩ (by rw [failed]; rfl)

/-! ### Schedules whose faults interrupt -/

end Faults

/-- The errors that say nothing about the devices on a line and nothing about what the bus master
can do. -/
inductive BusError.Interrupts {ε : Type} : BusError ε → Prop where
  | other (error : ε) : Interrupts (.other error)
  | shortCircuit : Interrupts .shortCircuit
  | busUninitialized : Interrupts .busUninitialized

/-- A schedule all of whose faults are such errors. -/
def Faults.Interrupting {ε : Type} (faults : Faults (BusError ε)) : Prop :=
  ∀ call fault, faults.fault? call = some fault → fault.Interrupts

theorem Faults.interrupting_ofSpans {ε : Type} {spans : List (Span (BusError ε))}
    (each : ∀ span ∈ spans, span.fault.Interrupts) : (ofSpans spans).Interrupting := by
  intro call fault some
  obtain ⟨span, found, rfl⟩ := Option.map_eq_some_iff.mp some
  exact each span (List.mem_of_find?_eq_some found)

end WireBridge
