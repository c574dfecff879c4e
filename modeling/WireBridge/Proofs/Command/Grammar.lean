/-
**Which requests are accepted.**

What a request has to hold is stated of its members, by the verb that it names. A request that
holds all of it gives the command with just those parameters, and any other request is refused for
the first thing that it lacks.

* `Json.Value.natural?_eq_some`: which values are natural numbers;
* `Command.Selects`, `Command.Names`, `Command.Repeats`: members that are as they should be;
* `Command.Requests`: the commands that members ask for, one case for each kind of verb;
* `Command.Refuses`: the first thing that members lack;
* `Command.requests_or_refuses`: it is always one of the two;
* `Command.parse_judges`: **requests are accepted exactly if they ask for a command**.
-/

import WireBridge.Proofs.Command.Echoing
import WireBridge.Proofs.Rom.Dotted

namespace WireBridge

open Json (Value NumberLiteral)

/-! ### Names -/

theorem Verb.ofName?_eq_some {name : String} {verb : Verb} :
    ofName? name = some verb ↔ verb.name = name := by
  constructor
  · intro known
    rw [ofName?] at known
    have named := List.find?_some known
    exact eq_of_beq named
  · rintro rfl
    exact ofName?_name verb

theorem Quantity.ofName?_eq_some {name : String} {quantity : Quantity} :
    ofName? name = some quantity ↔ quantity.name = name := by
  constructor
  · intro known
    rw [ofName?] at known
    have named := List.find?_some known
    exact eq_of_beq named
  · rintro rfl
    exact ofName?_name quantity

/-! ### Values -/

namespace Json

/-- A literal of digits only, and the number that they write. -/
structure NumberLiteral.Writes (literal : NumberLiteral) (number : Nat) : Prop where
  positive : literal.negative = false
  whole : literal.fraction = []
  plain : literal.exponent = none
  digits : Decimal.value literal.whole = number

theorem NumberLiteral.natural?_eq_some {literal : NumberLiteral} {number : Nat} :
    literal.natural? = some number ↔ literal.Writes number ∧ number ≤ maxWord := by
  obtain ⟨negative, whole, fraction, exponent⟩ := literal
  constructor
  · intro read
    rw [natural?] at read
    split at read
    · cases read
    · next digitsOnly =>
      simp only [Bool.or_eq_true, Bool.not_eq_true', List.isEmpty_eq_false_iff, not_or,
        Bool.not_eq_true, not_not, Option.isSome_eq_false_iff, Option.isNone_iff_eq_none]
        at digitsOnly
      obtain ⟨word, same⟩ := Option.ite_none_right_eq_some.mp read
      obtain rfl := Option.some.inj same
      exact ⟨⟨digitsOnly.1.1, digitsOnly.1.2, digitsOnly.2, rfl⟩, word⟩
  · rintro ⟨⟨rfl, rfl, rfl, rfl⟩, word⟩
    exact if_pos word

namespace Value

/-- A number that is written with digits only. -/
def IsNatural (value : Value) (number : Nat) : Prop :=
  ∃ literal, value = .number literal ∧ literal.Writes number

theorem natural?_eq_some {value : Value} {number : Nat} :
    value.natural? = some number ↔ value.IsNatural number ∧ number ≤ NumberLiteral.maxWord := by
  cases value <;> simp [natural?, IsNatural, NumberLiteral.natural?_eq_some]

theorem string?_eq_some {value : Value} {text : String} :
    value.string? = some text ↔ value = .string text := by
  cases value <;> simp [string?]

end Value

end Json

namespace Command

/-! ### Members -/

/-- A value that names a device: its code in dotted form, with letters of either case. -/
def IsDevice (value : Value) (address : Address) : Prop :=
  ∃ text, value = .string text ∧ Address.Dotted text ∧ address.valid = true ∧
    address.text = text.toUpper

theorem deviceOf?_eq_some {value : Value} {address : Address} :
    deviceOf? value = some address ↔ IsDevice value address := by
  have parsed (text : String) :
      (Address.parse text).toOption = some address ↔ Address.parse text = .ok address := by
    cases Address.parse text <;> simp [Except.toOption]
  simp only [deviceOf?, Option.bind_eq_some_iff, Value.string?_eq_some, parsed,
    Address.parse_ok_iff, IsDevice]

theorem familyOf?_eq_some {value : Value} {code : FamilyCode} :
    familyOf? value = some code ↔ value.IsNatural code.toNat := by
  simp only [familyOf?, Option.bind_eq_some_iff, Value.natural?_eq_some]
  constructor
  · rintro ⟨number, ⟨natural, _⟩, small⟩
    obtain ⟨byte, same⟩ := Option.ite_none_right_eq_some.mp small
    obtain rfl := Option.some.inj same
    rwa [UInt8.toNat_ofNat_of_lt' byte]
  · intro natural
    refine ⟨code.toNat, ⟨natural, Value.word_byte code⟩, ?_⟩
    rw [if_pos code.toNat_lt, UInt8.ofNat_toNat]

variable (members : Members)

/-- Neither a device nor a family is named. -/
def Unselected : Prop := members "device_id" = none ∧ members "family_code" = none

/-- Both a device and a family are named, if only by `null`. -/
def Conflicting : Prop := members "device_id" ≠ none ∧ members "family_code" ≠ none

/-- Members that name at most one of a device and a family, and name it well. -/
inductive Selects : Option Address → Option FamilyCode → Prop
  | neither (unselected : Unselected members) : Selects none none
  | device {value : Value} {address : Address} (named : members "device_id" = some value)
      (single : members "family_code" = none) (known : IsDevice value address) :
      Selects (some address) none
  | family {value : Value} {code : FamilyCode} (single : members "device_id" = none)
      (named : members "family_code" = some value) (known : value.IsNatural code.toNat) :
      Selects none (some code)

/-- Members that name a verb. -/
def Orders (verb : Verb) : Prop := members "action" = some (.string verb.name)

/-- Members that name a quantity. -/
def Names (quantity : Quantity) : Prop := members "attribute" = some (.string quantity.name)

/-- Members that give a period. -/
def Repeats (interval : Nat) : Prop :=
  ∃ value, members "interval" = some value ∧ value.IsNatural interval ∧
    1 ≤ interval ∧ interval ≤ 2 ^ 32 - 1

/-! ### Requests -/

/-- The commands that members ask for. Members that the verb does not need do not count. -/
inductive Requests (results errors : Sink) : Command → Prop
  | restart (orders : Orders members .restart) :
      Requests results errors { verb := .restart, results, errors }
  | scan {device : Option Address} {family : Option FamilyCode} (orders : Orders members .scan)
      (selects : Selects members device family) :
      Requests results errors { verb := .scan, device, family, results, errors }
  | measure {verb : Verb} {device : Option Address} {family : Option FamilyCode}
      {quantity : Quantity} (once : verb = .read ∨ verb = .unsubscribe)
      (orders : Orders members verb) (selected : ¬ Unselected members)
      (selects : Selects members device family) (names : Names members quantity) :
      Requests results errors
        { verb, device, family, quantity := some quantity, results, errors }
  | subscribe {device : Option Address} {family : Option FamilyCode} {quantity : Quantity}
      {interval : Nat} (orders : Orders members .subscribe) (selected : ¬ Unselected members)
      (selects : Selects members device family) (names : Names members quantity)
      (repeats : Repeats members interval) :
      Requests results errors
        { verb := .subscribe, device, family, quantity := some quantity, interval := some interval,
          results, errors }

/-- A verb whose commands are about a quantity. -/
def NeedsQuantity (verb : Verb) : Prop := verb ≠ .restart ∧ verb ≠ .scan

/-- The first thing that members lack, in the order verb, exclusion, selector, quantity, period. -/
inductive Refuses : CommandError → Prop
  | verb (unknown : ∀ verb, ¬ Orders members verb) : Refuses .unknownVerb
  | conflict {verb : Verb} (orders : Orders members verb) (needs : verb ≠ .restart)
      (conflicting : Conflicting members) : Refuses .conflictingSelector
  | selector {verb : Verb} (orders : Orders members verb) (needs : verb ≠ .restart)
      (single : ¬ Conflicting members)
      (unknown : ∀ device family, ¬ Selects members device family) : Refuses .invalidSelector
  | unselected {verb : Verb} (orders : Orders members verb) (needs : NeedsQuantity verb)
      (unselected : Unselected members) : Refuses .invalidSelector
  | quantity {verb : Verb} {device : Option Address} {family : Option FamilyCode}
      (orders : Orders members verb) (needs : NeedsQuantity verb) (selected : ¬ Unselected members)
      (selects : Selects members device family)
      (unknown : ∀ quantity, ¬ Names members quantity) : Refuses .invalidQuantity
  | interval {device : Option Address} {family : Option FamilyCode} {quantity : Quantity}
      (orders : Orders members .subscribe) (selected : ¬ Unselected members)
      (selects : Selects members device family) (names : Names members quantity)
      (unknown : ∀ interval, ¬ Repeats members interval) : Refuses .invalidInterval

section Reading

variable {members : Members} {results errors : Sink}

/-- The verbs that are read. -/
theorem orders_iff {verb : Verb} :
    (stringMember? members "action").bind Verb.ofName? = some verb ↔ Orders members verb := by
  simp only [stringMember?, Option.bind_eq_some_iff, Value.string?_eq_some, Verb.ofName?_eq_some]
  constructor
  · rintro ⟨_, ⟨_, there, rfl⟩, rfl⟩
    exact there
  · exact fun orders => ⟨_, ⟨_, orders, rfl⟩, rfl⟩

theorem verb?_orders {verb : Verb} (orders : Orders members verb) : verb? members = .ok verb := by
  rw [verb?, orders_iff.mpr orders]

theorem verb?_unknown (unknown : ∀ verb, ¬ Orders members verb) :
    verb? members = .error .unknownVerb := by
  rw [verb?]
  split
  · next verb found => exact absurd (orders_iff.mp found) (unknown verb)
  · rfl

theorem selector?_selects {required : Bool} {device : Option Address} {family : Option FamilyCode}
    {base : Command} (selects : Selects members device family)
    (selected : required = true → ¬ Unselected members)
    (fresh : base.device = none ∧ base.family = none) :
    selector? members required base = .ok { base with device := device, family := family } := by
  rw [selector?]
  cases selects with
  | neither unselected =>
    rw [unselected.1, unselected.2]
    cases required with
    | true => exact absurd unselected (selected rfl)
    | false => rw [← fresh.1, ← fresh.2]; rfl
  | device named single known =>
    simp only [named, single, deviceOf?_eq_some.mpr known, fresh.2]
  | family single named known =>
    simp only [named, single, familyOf?_eq_some.mpr known, fresh.1]

theorem selector?_conflicting {required : Bool} {base : Command}
    (conflicting : Conflicting members) :
    selector? members required base = .error .conflictingSelector := by
  obtain ⟨device, hasDevice⟩ := Option.ne_none_iff_exists'.mp conflicting.1
  obtain ⟨family, hasFamily⟩ := Option.ne_none_iff_exists'.mp conflicting.2
  rw [selector?, hasDevice, hasFamily]

theorem selector?_unselected {base : Command} (unselected : Unselected members) :
    selector? members true base = .error .invalidSelector := by
  rw [selector?, unselected.1, unselected.2]
  rfl

theorem selector?_unknown {required : Bool} {base : Command} (single : ¬ Conflicting members)
    (unknown : ∀ device family, ¬ Selects members device family) :
    selector? members required base = .error .invalidSelector := by
  rw [selector?]
  split
  · next hasDevice hasFamily =>
    exact absurd ⟨hasDevice ▸ Option.some_ne_none _, hasFamily ▸ Option.some_ne_none _⟩ single
  · next named absent =>
    split
    · next known => exact absurd (.device named absent (deviceOf?_eq_some.mp known)) (unknown _ _)
    · rfl
  · next absent named =>
    split
    · next known => exact absurd (.family absent named (familyOf?_eq_some.mp known)) (unknown _ _)
    · rfl
  · next noDevice noFamily => exact absurd (.neither ⟨noDevice, noFamily⟩) (unknown _ _)

/-- The quantities that are read. -/
theorem names_iff {quantity : Quantity} :
    (stringMember? members "attribute").bind Quantity.ofName? = some quantity ↔
      Names members quantity := by
  simp only [stringMember?, Option.bind_eq_some_iff, Value.string?_eq_some,
    Quantity.ofName?_eq_some]
  constructor
  · rintro ⟨_, ⟨_, there, rfl⟩, rfl⟩
    exact there
  · exact fun names => ⟨_, ⟨_, names, rfl⟩, rfl⟩

theorem quantity?_names {quantity : Quantity} {base : Command} (names : Names members quantity) :
    quantity? members base = .ok { base with quantity := some quantity } := by
  rw [quantity?, names_iff.mpr names]

theorem quantity?_unknown {base : Command} (unknown : ∀ quantity, ¬ Names members quantity) :
    quantity? members base = .error .invalidQuantity := by
  rw [quantity?]
  split
  · next quantity found => exact absurd (names_iff.mp found) (unknown quantity)
  · rfl

/-- The periods that are read. -/
theorem repeats_iff {interval : Nat} :
    ((members "interval").bind Value.natural?).filter intervalAllowed = some interval ↔
      Repeats members interval := by
  have allowed : intervalAllowed interval = true ↔ 1 ≤ interval ∧ interval ≤ 2 ^ 32 - 1 := by
    rw [intervalAllowed, Nat.pow_eq, Bool.and_eq_true, decide_eq_true_eq, decide_eq_true_eq]
    omega
  simp only [Option.filter_eq_some_iff, Option.bind_eq_some_iff, Value.natural?_eq_some, allowed,
    Repeats]
  constructor
  · rintro ⟨⟨value, there, natural, _⟩, range⟩
    exact ⟨value, there, natural, range⟩
  · rintro ⟨value, there, natural, range⟩
    exact ⟨⟨value, there, natural, Nat.le_trans range.2 (by decide)⟩, range⟩

theorem interval?_repeats {interval : Nat} {base : Command} (repeats : Repeats members interval) :
    interval? members base = .ok { base with interval := some interval } := by
  rw [interval?, repeats_iff.mpr repeats]

theorem interval?_unknown {base : Command} (unknown : ∀ interval, ¬ Repeats members interval) :
    interval? members base = .error .invalidInterval := by
  rw [interval?]
  split
  · next interval found => exact absurd (repeats_iff.mp found) (unknown interval)
  · rfl

end Reading

/-! ### Judgement -/

section Judgement

variable {members : Members} {results errors : Sink} {command : Command} {error : CommandError}

/-- What members give if they ask for a quantity, but for the period. -/
theorem measured_eq {base : Command} {device : Option Address} {family : Option FamilyCode}
    {quantity : Quantity} (selected : ¬ Unselected members)
    (selects : Selects members device family) (names : Names members quantity)
    (fresh : base.device = none ∧ base.family = none) :
    (selector? members true base >>= quantity? members) =
      .ok { base with device := device, family := family, quantity := some quantity } := by
  rw [selector?_selects selects (fun _ => selected) fresh]
  exact quantity?_names names

theorem Requests.ofMembers?_eq (requests : Requests members results errors command) :
    ofMembers? members results errors = .ok command := by
  rw [ofMembers?]
  cases requests with
  | restart orders =>
    rw [verb?_orders orders]
    rfl
  | scan orders selects =>
    rw [verb?_orders orders]
    exact selector?_selects selects (fun none => Bool.noConfusion none) ⟨rfl, rfl⟩
  | measure once orders selected selects names =>
    rw [verb?_orders orders]
    rcases once with rfl | rfl <;> exact measured_eq selected selects names ⟨rfl, rfl⟩
  | subscribe orders selected selects names repeats =>
    rw [verb?_orders orders]
    show (selector? members true _ >>= quantity? members >>= interval? members) = _
    rw [measured_eq selected selects names ⟨rfl, rfl⟩]
    exact interval?_repeats repeats

/-- A request is refused for its selector. -/
theorem ofMembers?_selector {verb : Verb} (orders : Orders members verb) (needs : verb ≠ .restart)
    (refused : ∀ required base, (required = false → verb = .scan) →
      selector? members required base = .error error) :
    ofMembers? members results errors = .error error := by
  have required (base : Command) : selector? members true base = .error error :=
    refused true base fun optional => Bool.noConfusion optional
  rw [ofMembers?, verb?_orders orders]
  cases verb with
  | restart => exact absurd rfl needs
  | scan => exact refused false _ fun _ => rfl
  | read => exact congrArg (· >>= quantity? members) (required _)
  | subscribe => exact congrArg (· >>= quantity? members >>= interval? members) (required _)
  | unsubscribe => exact congrArg (· >>= quantity? members) (required _)

theorem Refuses.ofMembers?_eq (refuses : Refuses members error) :
    ofMembers? members results errors = .error error := by
  cases refuses with
  | verb unknown =>
    rw [ofMembers?, verb?_unknown unknown]
    rfl
  | conflict orders needs conflicting =>
    exact ofMembers?_selector orders needs fun _ _ _ => selector?_conflicting conflicting
  | selector orders needs single unknown =>
    exact ofMembers?_selector orders needs fun _ _ _ => selector?_unknown single unknown
  | unselected orders needs unselected =>
    refine ofMembers?_selector orders needs.1 fun required base optional => ?_
    cases required with
    | false => exact absurd (optional rfl) needs.2
    | true => exact selector?_unselected unselected
  | @quantity verb device family orders needs selected selects unknown =>
    have refused {base : Command} (fresh : base.device = none ∧ base.family = none) :
        (selector? members true base >>= quantity? members) = .error .invalidQuantity := by
      rw [selector?_selects selects (fun _ => selected) fresh]
      exact quantity?_unknown unknown
    rw [ofMembers?, verb?_orders orders]
    cases verb with
    | restart => exact absurd rfl needs.1
    | scan => exact absurd rfl needs.2
    | read => exact refused ⟨rfl, rfl⟩
    | subscribe => exact congrArg (· >>= interval? members) (refused ⟨rfl, rfl⟩)
    | unsubscribe => exact refused ⟨rfl, rfl⟩
  | interval orders selected selects names unknown =>
    rw [ofMembers?, verb?_orders orders]
    show (selector? members true _ >>= quantity? members >>= interval? members) = _
    rw [measured_eq selected selects names ⟨rfl, rfl⟩]
    exact interval?_unknown unknown

/-- **Members ask for a command or lack something.** -/
theorem requests_or_refuses (members : Members) (results errors : Sink) :
    (∃ command, Requests members results errors command) ∨ ∃ error, Refuses members error := by
  by_cases known : ∃ verb, Orders members verb
  case neg => exact .inr ⟨_, .verb (not_exists.mp known)⟩
  obtain ⟨verb, orders⟩ := known
  by_cases plain : verb = .restart
  · exact .inl ⟨_, .restart (plain ▸ orders)⟩
  by_cases conflicting : Conflicting members
  · exact .inr ⟨_, .conflict orders plain conflicting⟩
  by_cases known : ∃ device family, Selects members device family
  case neg =>
    exact .inr ⟨_, .selector orders plain conflicting fun device family selects =>
      known ⟨device, family, selects⟩⟩
  obtain ⟨device, family, selects⟩ := known
  by_cases scans : verb = .scan
  · exact .inl ⟨_, .scan (scans ▸ orders) selects⟩
  by_cases unselected : Unselected members
  · exact .inr ⟨_, .unselected orders ⟨plain, scans⟩ unselected⟩
  by_cases known : ∃ quantity, Names members quantity
  case neg => exact .inr ⟨_, .quantity orders ⟨plain, scans⟩ unselected selects (not_exists.mp known)⟩
  obtain ⟨quantity, names⟩ := known
  by_cases subscribes : verb = .subscribe
  case neg =>
    have once : verb = .read ∨ verb = .unsubscribe := by
      cases verb <;> simp_all
    exact .inl ⟨_, .measure once orders unselected selects names⟩
  subst subscribes
  by_cases known : ∃ interval, Repeats members interval
  case neg => exact .inr ⟨_, .interval orders unselected selects names (not_exists.mp known)⟩
  obtain ⟨interval, repeats⟩ := known
  exact .inl ⟨_, .subscribe orders unselected selects names repeats⟩

theorem ofMembers?_ok_iff :
    ofMembers? members results errors = .ok command ↔
      Requests members results errors command := by
  refine ⟨fun given => ?_, Requests.ofMembers?_eq⟩
  rcases requests_or_refuses members results errors with ⟨other, requests⟩ | ⟨error, refuses⟩
  · exact Except.ok.inj (requests.ofMembers?_eq.symm.trans given) ▸ requests
  · exact nomatch refuses.ofMembers?_eq.symm.trans given

theorem ofMembers?_error_iff :
    ofMembers? members results errors = .error error ↔ Refuses members error := by
  refine ⟨fun given => ?_, Refuses.ofMembers?_eq⟩
  rcases requests_or_refuses members results errors with ⟨command, requests⟩ | ⟨other, refuses⟩
  · exact nomatch requests.ofMembers?_eq.symm.trans given
  · have refused : ofMembers? members results errors = .error other := refuses.ofMembers?_eq
    exact Except.error.inj (refused.symm.trans given) ▸ refuses

section Text

variable {text : String} {given : List (String × Value)}
  (read : Value.read? text = some (.object given))

include read

theorem parse_eq :
    parse text results errors = (ofMembers? (Value.lookup given) results errors).mapError
      fun error => error.report (some (.text text)) := by
  rw [parse, ofText?, read]
  rfl

theorem parse_ok_iff :
    parse text results errors = .ok command ↔
      Requests (Value.lookup given) results errors command := by
  rw [parse_eq read, ← ofMembers?_ok_iff]
  cases ofMembers? (Value.lookup given) results errors <;> simp [Except.mapError]

theorem parse_error_iff {report : ErrorReport} :
    parse text results errors = .error report ↔
      ∃ error, Refuses (Value.lookup given) error ∧ report = error.report (some (.text text)) := by
  simp only [parse_eq read, ← @ofMembers?_error_iff _ results errors]
  cases ofMembers? (Value.lookup given) results errors <;> simp [Except.mapError, eq_comm]

end Text

/-- What comes of a text whose members are given: just the command that they ask for, at its start,
due at any time and with the parameters that its verb needs; or a report of the first thing that
they lack, with the text. -/
structure Judged (text : String) (members : Members) (results errors : Sink)
    (outcome : Except ErrorReport Command) : Prop where
  accepted : ∀ command, outcome = .ok command ↔ Requests members results errors command
  refused : ∀ report, outcome = .error report ↔
    ∃ error, Refuses members error ∧ report = error.report (some (.text text))
  starts : ∀ command, outcome = .ok command → command.phase = .initial ∧
    (∀ now, command.timer.expired now = true) ∧ command.check = .ok ()

/-- **Requests are accepted exactly if they ask for a command**, and are refused otherwise for the
first thing that they lack. -/
theorem parse_judges {text : String} {members : List (String × Value)}
    (read : Value.read? text = some (.object members)) (results errors : Sink) :
    Judged text (Value.lookup members) results errors (parse text results errors) where
  accepted _ := parse_ok_iff read
  refused _ := parse_error_iff read
  starts command parsed := by
    obtain ⟨expressible, renewed, -⟩ := parse_expressible parsed
    rw [← renewed]
    exact ⟨rfl, fun now => decide_eq_true (Nat.zero_le _), renewed.symm ▸ expressible.check⟩

/-- A subscription to a thermometer, with its code in small letters and a member too many. -/
theorem parse_judges_subscription :
    let text := "\x7b\"action\":\"subscribe\",\"device_id\":\"28.0b0a00000000\",\"unit\":1," ++
      "\"attribute\":\"temperature\",\"interval\":250\x7d"
    let members := [("action", .string "subscribe"), ("device_id", .string "28.0b0a00000000"),
      ("unit", .ofNat 1), ("attribute", .string "temperature"), ("interval", .ofNat 250)]
    Value.read? text = some (.object members) ∧
      Judged text (Value.lookup members) 1 2 (parse text 1 2) := by
  intro text members
  have written : text = (Value.object members).text := by decide +kernel
  have within : Value.Within 1 (.object members) := .object <| by
    simp only [members, List.forall_mem_cons]
    exact ⟨.string _, .string _, Value.within_ofNat (by decide) 0, .string _,
      Value.within_ofNat (by decide) 0, nofun⟩
  have read : Value.read? text = some (.object members) :=
    written ▸ Value.read?_text within (by decide)
  exact ⟨read, parse_judges read 1 2⟩

end Judgement

end Command

end WireBridge
