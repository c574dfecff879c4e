/-
**An echoed command is a request for it.**

The parameters that are told with an error have the members of a request. So the text of an echo is
a request, and the command that it gives is the one that failed, as it was at its start.

* `Command.Expressible`: the commands that requests can express;
* `Echo.read?_text`: the text of an echo has its members;
* `Command.parse_echo`: **an expressible command is read back from its echo**;
* `Command.parse_expressible`: requests give expressible commands only.
-/

import WireBridge.Command.Request
import WireBridge.Proofs.Action
import WireBridge.Proofs.Json.Reading
import WireBridge.Proofs.Rom.Text

namespace WireBridge

open Json (Value NumberLiteral)

/-! ### Members of objects -/

namespace Json.Value

theorem lookup_append (first second : List (String × Value)) (key : String) :
    lookup (first ++ second) key = (lookup second key).or (lookup first key) := by
  simp only [lookup, List.reverse_append, List.find?_append]
  cases List.find? (fun member => member.1 == key) second.reverse <;> rfl

theorem lookup_cons (name : String) (value : Value) (rest : List (String × Value)) (key : String) :
    lookup ((name, value) :: rest) key =
      (lookup rest key).or (if name = key then some value else none) := by
  rw [← List.singleton_append, lookup_append]
  by_cases same : name = key <;> simp [lookup, same]

theorem lookup_optional {α : Type} (name : String) (form : α → Value) (value : Option α)
    (key : String) :
    lookup (optional name form value) key = if name = key then value.map form else none := by
  cases value with
  | none => simp [optional, lookup]
  | some value => by_cases same : name = key <;> simp [optional, lookup, same]

theorem within_optional {α : Type} {depth : Nat} {form : α → Value} {value : Option α}
    (within : ∀ given ∈ value, Within depth (form given)) (key : String) :
    ∀ member ∈ optional key form value, Within depth member.2 := by
  cases value with
  | none => exact nofun
  | some given => exact List.forall_mem_singleton.mpr (within given rfl)

end Json.Value

theorem Verb.ofName?_name (verb : Verb) : Verb.ofName? verb.name = some verb := by
  cases verb <;> decide

theorem Quantity.ofName?_name (quantity : Quantity) :
    Quantity.ofName? quantity.name = some quantity := by
  cases quantity <;> decide

/-! ### Echoes -/

namespace Echo

/-- The members of an echo. -/
def members (echo : Echo) : List (String × Value) :=
  ("action", .string echo.verb.name) ::
    (Value.optional "device_id" Address.toValue echo.device ++
    Value.optional "family_code" .ofByte echo.family ++
    Value.optional "attribute" Quantity.toValue echo.quantity ++
    Value.optional "interval" .ofNat echo.interval)

theorem toValue_eq (echo : Echo) : echo.toValue = .object echo.members := rfl

/-- The members of an echo by their keys. -/
structure Tells (echo : Echo) (members : Command.Members) : Prop where
  verb : members "action" = some (.string echo.verb.name)
  device : members "device_id" = echo.device.map Address.toValue
  family : members "family_code" = echo.family.map .ofByte
  quantity : members "attribute" = echo.quantity.map Quantity.toValue
  interval : members "interval" = echo.interval.map .ofNat

theorem tells_members (echo : Echo) : echo.Tells (Value.lookup echo.members) := by
  constructor <;>
    simp [members, Value.lookup_append, Value.lookup_cons, Value.lookup_optional]

/-- The text of an echo is read. -/
theorem read?_text {echo : Echo}
    (word : ∀ interval ∈ echo.interval, interval ≤ NumberLiteral.maxWord) :
    Value.read? echo.toValue.text = some (.object echo.members) := by
  have quantity := @Value.within_optional _ 0 Quantity.toValue echo.quantity
    (fun given _ => .string given.name) "attribute"
  have device := @Value.within_optional _ 0 Address.toValue echo.device
    (fun given _ => .string given.text) "device_id"
  have family := @Value.within_optional _ 0 Value.ofByte echo.family
    (fun given _ => Value.within_ofNat (Value.word_byte given) 0) "family_code"
  have interval := @Value.within_optional _ 0 Value.ofNat echo.interval
    (fun given member => Value.within_ofNat (word given member) 0) "interval"
  have within : Value.Within 1 (.object echo.members) := .object <| List.forall_mem_cons.mpr
    ⟨.string _, List.forall_mem_append.mpr ⟨List.forall_mem_append.mpr
      ⟨List.forall_mem_append.mpr ⟨device, family⟩, quantity⟩, interval⟩⟩
  rw [toValue_eq]
  exact Value.read?_text within (by decide)

end Echo

/-! ### Commands -/

namespace Command

/-- A quantity and exactly one selector are given. -/
def Measurable (command : Command) : Prop :=
  command.quantity.isSome ∧ command.device.isSome ≠ command.family.isSome

/-- The commands that requests can express. -/
def Expressible (command : Command) : Prop :=
  match command.verb with
  | .restart => command.device = none ∧ command.family = none ∧ command.quantity = none ∧
      command.interval = none
  | .scan => ¬ (command.device.isSome ∧ command.family.isSome) ∧ command.quantity = none ∧
      command.interval = none
  | .read => command.Measurable ∧ command.interval = none
  | .unsubscribe => command.Measurable ∧ command.interval = none
  | .subscribe => command.Measurable ∧ ∃ interval, command.interval = some interval ∧
      1 ≤ interval ∧ interval ≤ 2 ^ 32 - 1

/-- The command as it was at its start. -/
def renewed (command : Command) : Command := { command with phase := .initial, timer := .idle }

/-- The command before its parameters are read. -/
def bare (command : Command) : Command :=
  { verb := command.verb, results := command.results, errors := command.errors }

section Members

variable {command : Command} {members : Members}
  (tells : (Echo.ofCommand command).Tells members)

include tells

theorem verb?_echo : verb? members = .ok command.verb := by
  have named : (stringMember? members "action").bind Verb.ofName? = some command.verb := by
    rw [stringMember?, tells.verb]
    exact Verb.ofName?_name command.verb
  rw [verb?, named]

theorem selector?_echo (valid : ∀ device ∈ command.device, device.valid = true)
    (single : ¬ (command.device.isSome ∧ command.family.isSome)) {required : Bool}
    (selects : required = true → command.device.isSome ≠ command.family.isSome) :
    selector? members required command.bare =
      .ok { command.bare with device := command.device, family := command.family } := by
  obtain ⟨verb, phase, device, family, quantity, interval, timer, results, errors⟩ := command
  rw [selector?, tells.device, tells.family]
  cases device with
  | none =>
    cases family with
    | none =>
      cases required with
      | false => rfl
      | true => exact absurd rfl (selects rfl)
    | some family =>
      have known : familyOf? (Value.ofByte family) = some family := by
        show (NumberLiteral.ofNat family.toNat).natural?.bind _ = _
        rw [NumberLiteral.natural?_ofNat (Value.word_byte family), Option.bind_some,
          if_pos family.toNat_lt, UInt8.ofNat_toNat]
      simp only [Echo.ofCommand, Option.map_none, Option.map_some, known]
      rfl
  | some device =>
    cases family with
    | none =>
      have known : deviceOf? device.toValue = some device := by
        show (Address.parse device.text).toOption = _
        rw [Address.parse_text (valid device rfl)]
        rfl
      simp only [Echo.ofCommand, Option.map_none, Option.map_some, known]
      rfl
    | some family => exact absurd ⟨rfl, rfl⟩ single

theorem quantity?_echo (named : command.quantity.isSome) (base : Command) :
    quantity? members base = .ok { base with quantity := command.quantity } := by
  obtain ⟨quantity, same⟩ := Option.isSome_iff_exists.mp named
  have member : stringMember? members "attribute" = some quantity.name := by
    rw [stringMember?, tells.quantity]
    simp only [Echo.ofCommand, same]
    rfl
  rw [quantity?, member, Option.bind_some, Quantity.ofName?_name, same]

theorem interval?_echo {interval : Nat} (given : command.interval = some interval)
    (positive : 1 ≤ interval) (small : interval ≤ 2 ^ 32 - 1) (base : Command) :
    interval? members base = .ok { base with interval := command.interval } := by
  have word : interval ≤ NumberLiteral.maxWord := Nat.le_trans small (by decide)
  have allowed : intervalAllowed interval = true := by
    rw [intervalAllowed, Nat.pow_eq]
    simp only [Bool.and_eq_true, decide_eq_true_eq]
    omega
  have member : (members "interval").bind Value.natural? = some interval := by
    rw [tells.interval]
    simp only [Echo.ofCommand, given]
    exact NumberLiteral.natural?_ofNat word
  rw [interval?, member, Option.filter_some, if_pos allowed, given]

/-- What is read of a command about a quantity, but for its period. -/
theorem measurable_echo (measures : command.Measurable)
    (valid : ∀ device ∈ command.device, device.valid = true) :
    (selector? members true command.bare >>= quantity? members) =
      .ok { command.renewed with interval := none } := by
  obtain ⟨named, selects⟩ := measures
  have single : ¬ (command.device.isSome ∧ command.family.isSome) :=
    fun both => selects (both.1.trans both.2.symm)
  rw [selector?_echo tells valid single fun _ => selects]
  exact quantity?_echo tells named _

/-- The members of an echo give the command again. -/
theorem ofMembers?_echo (expressible : command.Expressible)
    (valid : ∀ device ∈ command.device, device.valid = true) :
    ofMembers? members command.results command.errors = .ok command.renewed := by
  have measured := measurable_echo tells
  rw [ofMembers?, verb?_echo tells]
  show (match command.verb with
    | .restart => pure command.bare
    | .scan => selector? members false command.bare
    | .read => selector? members true command.bare >>= quantity? members
    | .unsubscribe => selector? members true command.bare >>= quantity? members
    | .subscribe => selector? members true command.bare >>= quantity? members >>=
        interval? members) = Except.ok command.renewed
  rw [Expressible] at expressible
  cases same : command.verb with
  | restart =>
    rw [same] at expressible
    obtain ⟨device, family, quantity, interval⟩ := expressible
    simp only [renewed, bare, device, family, quantity, interval]
    rfl
  | scan =>
    rw [same] at expressible
    obtain ⟨single, quantity, interval⟩ := expressible
    have selected := selector?_echo tells valid single (fun never : false = true => nomatch never)
    refine selected.trans ?_
    simp only [renewed, bare, quantity, interval]
  | read =>
    rw [same] at expressible
    obtain ⟨measures, interval⟩ := expressible
    simp only [measured measures valid, renewed, interval]
  | unsubscribe =>
    rw [same] at expressible
    obtain ⟨measures, interval⟩ := expressible
    simp only [measured measures valid, renewed, interval]
  | subscribe =>
    rw [same] at expressible
    obtain ⟨measures, interval, given, positive, small⟩ := expressible
    simp only [measured measures valid]
    exact interval?_echo tells given positive small _

end Members

theorem Expressible.interval_le {command : Command} (expressible : command.Expressible) :
    ∀ interval ∈ command.interval, interval ≤ 2 ^ 32 - 1 := by
  intro interval given
  rw [Expressible] at expressible
  split at expressible
  · rw [expressible.2.2.2] at given
    cases given
  · rw [expressible.2.2] at given
    cases given
  · rw [expressible.2] at given
    cases given
  · rw [expressible.2] at given
    cases given
  · obtain ⟨_, other, same, _, small⟩ := expressible
    exact Option.some.inj (given.symm.trans same) ▸ small

/-- **An expressible command is read back from its echo**, as it was at its start. -/
theorem parse_echo {command : Command} (expressible : command.Expressible)
    (valid : ∀ device, command.device = some device → device.valid = true) :
    parse (Echo.ofCommand command).toValue.text command.results command.errors =
      .ok { command with phase := .initial, timer := .idle } := by
  have word : ∀ interval ∈ command.interval, interval ≤ NumberLiteral.maxWord :=
    fun interval given => Nat.le_trans (expressible.interval_le interval given) (by decide)
  have given := ofMembers?_echo (Echo.tells_members (Echo.ofCommand command)) expressible valid
  rw [parse, ofText?, Echo.read?_text word]
  exact congrArg _ given

/-- An echo of a subscription to a thermometer whose first read has begun. -/
theorem parse_echo_thermometer :
    let command : Command :=
      { verb := .subscribe, phase := .result, device := some ⟨0x9e06050403020128⟩,
        quantity := some .temperature, interval := some 5000, timer := ⟨750, 3⟩,
        results := 1, errors := 2 }
    command.Expressible ∧ (∀ device, command.device = some device → device.valid = true) ∧
      parse (Echo.ofCommand command).toValue.text 1 2 =
        .ok { command with phase := .initial, timer := .idle } := by
  intro command
  have expressible : command.Expressible := ⟨⟨rfl, nofun⟩, 5000, rfl, by decide, by decide⟩
  have valid : ∀ device, command.device = some device → device.valid = true := by
    rintro device ⟨⟩
    decide +kernel
  exact ⟨expressible, valid, parse_echo expressible valid⟩

/-! ### What requests give -/

section Given

variable {members : Members} {base command : Command}

theorem selector?_ok {required : Bool} (read : selector? members required base = .ok command)
    (fresh : base.device = none ∧ base.family = none) :
    ∃ device family, command = { base with device := device, family := family } ∧
      ¬ (device.isSome ∧ family.isSome) ∧ (required = true → device.isSome ≠ family.isSome) := by
  rw [selector?] at read
  split at read
  · cases read
  · split at read
    · next device _ =>
      cases read
      exact ⟨some device, none, by rw [← fresh.2], nofun, fun _ => nofun⟩
    · cases read
  · split at read
    · next family _ =>
      cases read
      exact ⟨none, some family, by rw [← fresh.1], nofun, fun _ => nofun⟩
    · cases read
  · split at read
    · cases read
    · next optional =>
      cases read
      exact ⟨none, none, by rw [← fresh.1, ← fresh.2], nofun, fun needed => absurd needed optional⟩

theorem quantity?_ok (read : quantity? members base = .ok command) :
    ∃ quantity, command = { base with quantity := some quantity } := by
  rw [quantity?] at read
  split at read
  · exact ⟨_, (Except.ok.inj read).symm⟩
  · cases read

theorem interval?_ok (read : interval? members base = .ok command) :
    ∃ interval, command = { base with interval := some interval } ∧ 1 ≤ interval ∧
      interval ≤ 2 ^ 32 - 1 := by
  rw [interval?] at read
  split at read
  · next interval found =>
    have allowed := (Option.filter_eq_some_iff.mp found).2
    rw [intervalAllowed, Nat.pow_eq, Bool.and_eq_true, decide_eq_true_eq, decide_eq_true_eq]
      at allowed
    exact ⟨interval, (Except.ok.inj read).symm, by omega, by omega⟩
  · cases read

theorem ok_of_bind {ε α β : Type} {outcome : Except ε α} {next : α → Except ε β} {result : β}
    (done : (outcome >>= next) = .ok result) :
    ∃ value, outcome = .ok value ∧ next value = .ok result := by
  cases outcome with
  | error error => cases done
  | ok value => exact ⟨value, rfl, done⟩

/-- What members about a quantity give, but for the period. -/
theorem measurable_ok (read : (selector? members true base >>= quantity? members) = .ok command)
    (fresh : base.device = none ∧ base.family = none) :
    ∃ device family quantity, command =
        { base with device := device, family := family, quantity := some quantity } ∧
      device.isSome ≠ family.isSome := by
  obtain ⟨_, selected, read⟩ := ok_of_bind read
  obtain ⟨device, family, rfl, _, selects⟩ := selector?_ok selected fresh
  obtain ⟨quantity, rfl⟩ := quantity?_ok read
  exact ⟨device, family, quantity, rfl, selects rfl⟩

/-- Members give expressible commands. -/
theorem ofMembers?_expressible {results errors : Sink}
    (read : ofMembers? members results errors = .ok command) :
    command.Expressible ∧ command.renewed = command ∧ command.results = results ∧
      command.errors = errors := by
  obtain ⟨verb, _, read⟩ := ok_of_bind read
  cases verb with
  | restart =>
    obtain rfl := Except.ok.inj read
    exact ⟨⟨rfl, rfl, rfl, rfl⟩, rfl, rfl, rfl⟩
  | scan =>
    obtain ⟨device, family, rfl, single, _⟩ := selector?_ok read ⟨rfl, rfl⟩
    exact ⟨⟨single, rfl, rfl⟩, rfl, rfl, rfl⟩
  | read =>
    obtain ⟨device, family, quantity, rfl, selects⟩ := measurable_ok read ⟨rfl, rfl⟩
    exact ⟨⟨⟨rfl, selects⟩, rfl⟩, rfl, rfl, rfl⟩
  | unsubscribe =>
    obtain ⟨device, family, quantity, rfl, selects⟩ := measurable_ok read ⟨rfl, rfl⟩
    exact ⟨⟨⟨rfl, selects⟩, rfl⟩, rfl, rfl, rfl⟩
  | subscribe =>
    obtain ⟨_, measured, read⟩ := ok_of_bind read
    obtain ⟨device, family, quantity, rfl, selects⟩ := measurable_ok measured ⟨rfl, rfl⟩
    obtain ⟨interval, rfl, positive, small⟩ := interval?_ok read
    exact ⟨⟨⟨rfl, selects⟩, interval, rfl, positive, small⟩, rfl, rfl, rfl⟩

end Given

/-- **Requests give expressible commands**, at their start and with the sinks of the caller. -/
theorem parse_expressible {text : String} {results errors : Sink} {command : Command}
    (parsed : parse text results errors = .ok command) :
    command.Expressible ∧ command.renewed = command ∧ command.results = results ∧
      command.errors = errors := by
  have read := Action.ok_of_mapError parsed
  rw [ofText?] at read
  split at read
  · exact ofMembers?_expressible read
  · cases read

theorem Measurable.single {command : Command} (measures : command.Measurable) :
    (command.device.isSome && command.family.isSome) = false ∧ command.selects = true := by
  have selects := measures.2
  rw [Command.selects]
  cases device : command.device.isSome <;> cases family : command.family.isSome <;> simp_all

/-- An expressible command has the parameters that its verb needs. -/
theorem Expressible.check {command : Command} (expressible : command.Expressible) :
    command.check = .ok () := by
  rw [Expressible] at expressible
  rw [Command.check]
  cases same : command.verb with
  | restart =>
    rw [same] at expressible
    simp [expressible.1]
  | scan =>
    rw [same] at expressible
    simp [expressible.1]
  | read =>
    rw [same] at expressible
    obtain ⟨single, selects⟩ := expressible.1.single
    simp [single, Command.check.measured, expressible.1.1, selects]
  | unsubscribe =>
    rw [same] at expressible
    obtain ⟨single, selects⟩ := expressible.1.single
    simp [single, Command.check.measured, expressible.1.1, selects]
  | subscribe =>
    rw [same] at expressible
    obtain ⟨measures, interval, given, _⟩ := expressible
    obtain ⟨single, selects⟩ := measures.single
    simp [single, Command.check.measured, measures.1, given, selects]

end Command

end WireBridge
