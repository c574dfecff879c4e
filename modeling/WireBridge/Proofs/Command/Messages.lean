/-
**Errors told by their messages.**

A client sees the message of an error only. What it can tell from it:

* `Text.Begins`: how a text begins, whatever follows;
* `CommandError.initial`: how each message begins;
* `CommandError.eq_queueFull`: no other message begins like the one about a full queue;
* `CommandError.Refusal.eq_of_message`: what the check of a command refuses it with is known by its
  message;
* `Delivery.TellsFull`, `Delivery.Tells`: answers with such a message, which only the failure of a
  command with that cause is (`Delivery.tellsFull_failure`, `Delivery.tells_failure`).
-/

import WireBridge.Command.Answer

namespace WireBridge

/-! ### How texts begin -/

/-- A text begins with a character. -/
def Text.Begins (first : Char) (text : String) : Prop := text.toList.head? = some first

namespace Text

theorem begins_ofList (first : Char) (rest : List Char) :
    Begins first (String.ofList (first :: rest)) := by
  rw [Begins, String.toList_ofList, List.head?_cons]

theorem Begins.append {first : Char} {text : String} (begins : Begins first text)
    (rest : String) : Begins first (text ++ rest) := by
  rw [Begins, String.toList_append, List.head?_append, begins, Option.some_or]

theorem Begins.unique {first second : Char} {text : String} (one : Begins first text)
    (other : Begins second text) : first = second :=
  Option.some.inj (one.symm.trans other)

end Text

open Text (Begins begins_ofList)

/-! ### How messages begin -/

namespace CommandError

/-- The first character of a message. -/
def initial : CommandError → Char
  | .malformed | .sampleFailed .. | .readFailed .. | .scanFailed _ => 'F'
  | .unknownVerb | .unsupportedQuantity _ => 'U'
  | .invalidSelector | .invalidQuantity | .invalidInterval => 'M'
  | .missingSelector | .missingQuantity | .missingQuantityOrInterval => 'M'
  | .conflictingSelector => 'd'
  | .familyNotSupported => 'A'
  | .deviceNotFound => '1'
  | .noFamilyDevices | .notSubscribed _ => 'N'
  | .alreadySubscribed _ => 'W'
  | .queueFull => 'C'

theorem begins_initial (error : CommandError) : Begins error.initial error.message := by
  cases error with
  | unsupportedQuantity family =>
    show Begins 'U' (unsupportedQuantity family).message
    unfold message
    dsimp only
    cases Family.partName? family with
    | none => exact begins_ofList 'U' _
    | some part => exact ((begins_ofList 'U' _).append _).append _
  | sampleFailed family quantity =>
    exact ((((begins_ofList 'F' _).append _).append _).append _).append _
  | readFailed family quantity =>
    exact ((((begins_ofList 'F' _).append _).append _).append _).append _
  | scanFailed scope => cases scope <;> exact begins_ofList 'F' _
  | alreadySubscribed family => cases family <;> exact begins_ofList 'W' _
  | notSubscribed family => cases family <;> exact begins_ofList 'N' _
  | _ => exact begins_ofList _ _

/-- Errors with one message begin alike. -/
theorem initial_eq {error other : CommandError} (same : error.message = other.message) :
    error.initial = other.initial :=
  error.begins_initial.unique (same ▸ other.begins_initial)

/-- No other message begins like the one about a full queue. -/
theorem eq_queueFull {error : CommandError} (begins : Begins 'C' error.message) :
    error = .queueFull := by
  have same := error.begins_initial.unique begins
  cases error with
  | queueFull => rfl
  | _ => exact absurd same (by simp [initial])

/-! ### Messages about parameters -/

/-- What the check of a command refuses it with. -/
inductive Refusal : CommandError → Prop
  | conflict : Refusal .conflictingSelector
  | selector : Refusal .missingSelector
  | quantity : Refusal .missingQuantity
  | interval : Refusal .missingQuantityOrInterval

/-- **A refusal is known by its message.** -/
theorem Refusal.eq_of_message {error refusal : CommandError} (refused : refusal.Refusal)
    (same : error.message = refusal.message) : error = refusal := by
  have alike := initial_eq same
  cases refused with
  | conflict =>
    cases error with
    | conflictingSelector => rfl
    | _ => exact absurd alike (by simp [initial])
  | selector =>
    cases error with
    | missingSelector => rfl
    | invalidSelector | invalidQuantity | invalidInterval => exact absurd same (by decide)
    | missingQuantity | missingQuantityOrInterval => exact absurd same (by decide)
    | _ => exact absurd alike (by simp [initial])
  | quantity =>
    cases error with
    | missingQuantity => rfl
    | invalidSelector | invalidQuantity | invalidInterval => exact absurd same (by decide)
    | missingSelector | missingQuantityOrInterval => exact absurd same (by decide)
    | _ => exact absurd alike (by simp [initial])
  | interval =>
    cases error with
    | missingQuantityOrInterval => rfl
    | invalidSelector | invalidQuantity | invalidInterval => exact absurd same (by decide)
    | missingSelector | missingQuantity => exact absurd same (by decide)
    | _ => exact absurd alike (by simp [initial])

end CommandError

/-! ### Answers -/

namespace Delivery

/-- An answer tells that the queue is full. -/
def TellsFull : Delivery → Prop
  | .result .. => False
  | .error _ report => report.message = CommandError.queueFull.message

theorem tellsFull_failure {command : Command} {error : CommandError} :
    (failure command error).TellsFull ↔ error = .queueFull := by
  constructor
  · intro full
    refine CommandError.eq_queueFull ?_
    rw [show error.message = CommandError.queueFull.message from full]
    exact begins_ofList 'C' _
  · rintro rfl
    exact rfl

/-- An answer tells an error. -/
def Tells (error : CommandError) : Delivery → Prop
  | .result .. => False
  | .error _ report => report.message = error.message

theorem tells_failure {command : Command} {error refusal : CommandError}
    (refused : refusal.Refusal) : (failure command error).Tells refusal ↔ error = refusal := by
  constructor
  · exact refused.eq_of_message
  · rintro rfl
    exact rfl

end Delivery

end WireBridge
