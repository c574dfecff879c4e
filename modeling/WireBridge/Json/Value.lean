/-
**JSON values.**

A `Value` is what a text means: its strings consist of characters and all its numbers are in the
range of double precision. Texts whose strings hold half of a surrogate pair, whose numbers are too
large, or that nest too deeply have no value.

* `Json.Value.read?`: the value of a text;
* `Json.Value.lookup`: a member of an object; of members with one key the last counts;
* `Json.Value.text`: a value as text, without blanks.
-/

import WireBridge.Json.Document

namespace WireBridge.Json

/-- A value. -/
inductive Value where
  | null
  | bool (value : Bool)
  | number (literal : NumberLiteral)
  | string (value : String)
  | array (items : List Value)
  | object (members : List (String × Value))

/-! ### Strings -/

namespace StringLiteral

/-- Whether a unit is the first half of a pair. -/
def isHigh (unit : Nat) : Bool := 0xd800 ≤ unit && unit < 0xdc00

/-- Whether a unit is the second half of a pair. -/
def isLow (unit : Nat) : Bool := 0xdc00 ≤ unit && unit < 0xe000

/-- The characters of a string; halves of pairs have to come together. -/
def chars? : StringLiteral → Option (List Char)
  | [] => some []
  | .char char :: rest => (chars? rest).map (char :: ·)
  | .unit high :: .unit low :: rest =>
    if isHigh high then
      if isLow low then
        (chars? rest).map (Char.ofNat (0x10000 + (high - 0xd800) * 0x400 + (low - 0xdc00)) :: ·)
      else none
    else if isLow high then none
    else (chars? (.unit low :: rest)).map (Char.ofNat high :: ·)
  | .unit unit :: rest =>
    if isHigh unit || isLow unit then none
    else (chars? rest).map (Char.ofNat unit :: ·)

/-- The string that is meant. -/
def string? (literal : StringLiteral) : Option String := (chars? literal).map String.ofList

end StringLiteral

/-! ### Numbers -/

namespace NumberLiteral

/-- The largest number of 64 bits. -/
def maxWord : Nat := Nat.pow 2 64 - 1

/-- The largest number of 31 bits. -/
def maxExponent : Nat := Nat.pow 2 31 - 1

/-- The natural number that is written, if it is written as one and has 64 bits. -/
def natural? (literal : NumberLiteral) : Option Nat :=
  if literal.negative || !literal.fraction.isEmpty || literal.exponent.isSome then none
  else
    let number := Decimal.value literal.whole
    if number ≤ maxWord then some number else none

/-- A number cut to 64 bits: leading digits as one number, and the count of digits left out. -/
def gather (digits : List Nat) (start : Nat) : Nat × List Nat :=
  match digits with
  | [] => (start, [])
  | digit :: rest =>
    let longer := 10 * start + digit
    if longer ≤ maxWord then gather rest longer else (start, digit :: rest)

/-- The significand in 64 bits and the power of ten that goes with it, exponent apart. -/
def significand (literal : NumberLiteral) : Nat × Int :=
  match gather literal.whole 0 with
  | (number, []) =>
    let (longer, left) := gather literal.fraction number
    (longer, -((literal.fraction.length - left.length : Nat) : Int))
  | (number, left) =>
    if literal.fraction.isEmpty then (number, (left.length : Int))
    else
      let (longer, skipped) := gather literal.fraction number
      (longer, (left.length : Int) - ((literal.fraction.length - skipped.length : Nat) : Int))

/-- A number rounded to 53 significant bits, a tie to the even neighbour. -/
def roundSignificand (number : Nat) : Nat :=
  let excess := number.log2 - 52
  let unit := Nat.pow 2 excess
  let low := number / unit
  let rest := number % unit
  if 2 * rest < unit then low * unit
  else if 2 * rest = unit ∧ low % 2 = 0 then low * unit
  else (low + 1) * unit

/-- The least number that double precision rounds to infinity. -/
def overflowThreshold : Nat := Nat.pow 2 1024 - Nat.pow 2 970

/-- Whether a significand times a power of ten stays finite. Powers of ten up to 308 are
multiplied in double precision; higher ones are refused unless the significand is zero. -/
def scaledInRange (number : Nat) (power : Int) : Bool :=
  if power < 0 then true
  else if power ≤ 308 then
    roundSignificand number * roundSignificand (Nat.pow 10 power.toNat) < overflowThreshold
  else number == 0

/-- Whether the number is in the range of double precision. -/
def inRange (literal : NumberLiteral) : Bool :=
  let (number, power) := literal.significand
  match literal.exponent with
  | none => scaledInRange number power
  | some (down, digits) =>
    let exponent := Decimal.value digits
    if maxExponent < exponent then down || number == 0
    else scaledInRange number (if down then power - exponent else power + exponent)

end NumberLiteral

/-! ### Reading -/

namespace Value

mutual

/-- The value of a tree. -/
def ofDocument? : Document → Option Value
  | .null => some .null
  | .bool value => some (.bool value)
  | .number literal => if literal.inRange then some (.number literal) else none
  | .string literal => literal.string?.map .string
  | .array items => (ofItems? items).map .array
  | .object members => (ofMembers? members).map .object

/-- The values of the items of an array. -/
def ofItems? : List Document → Option (List Value)
  | [] => some []
  | item :: rest => do
    let value ← ofDocument? item
    let others ← ofItems? rest
    pure (value :: others)

/-- The members of an object. -/
def ofMembers? : List (StringLiteral × Document) → Option (List (String × Value))
  | [] => some []
  | (key, item) :: rest => do
    let name ← key.string?
    let value ← ofDocument? item
    let others ← ofMembers? rest
    pure ((name, value) :: others)

end

/-- The deepest nesting of arrays and objects that a value may have. -/
def maxNesting : Nat := 127

/-- The value of a text. -/
def read? (text : String) : Option Value := do
  let tokens ← tokens? text.toList
  if maxNesting < nesting tokens then none
  let document ← Document.ofTokens? tokens
  ofDocument? document

/-- The members of an object. -/
def members? : Value → Option (List (String × Value))
  | .object members => some members
  | _ => none

/-- The last member with a key. -/
def lookup (members : List (String × Value)) (key : String) : Option Value :=
  (members.reverse.find? fun member => member.1 == key).map Prod.snd

/-- The text of a string value. -/
def string? : Value → Option String
  | .string value => some value
  | _ => none

/-- The natural number of a number value. -/
def natural? : Value → Option Nat
  | .number literal => literal.natural?
  | _ => none

/-- A natural number. -/
def ofNat (number : Nat) : Value := .number (.ofNat number)

/-! ### Writing -/

/-- A character of a string. Quotes, backslashes and control characters are escaped. -/
def escaped (char : Char) : List Char :=
  if char = '"' then ['\\', '"']
  else if char = '\\' then ['\\', '\\']
  else if char = '\x08' then ['\\', 'b']
  else if char = '\x0c' then ['\\', 'f']
  else if char = '\n' then ['\\', 'n']
  else if char = '\r' then ['\\', 'r']
  else if char = '\t' then ['\\', 't']
  else if char.toNat < 32 then
    ['\\', 'u', '0', '0', Hex.smallDigit (char.toNat / 16), Hex.smallDigit (char.toNat % 16)]
  else [char]

/-- A quoted string. -/
def quoted (text : String) : List Char :=
  '"' :: text.toList.flatMap escaped ++ ['"']

mutual

/-- The characters of a value. -/
def chars : Value → List Char
  | .null => ['n', 'u', 'l', 'l']
  | .bool true => ['t', 'r', 'u', 'e']
  | .bool false => ['f', 'a', 'l', 's', 'e']
  | .number literal => literal.chars
  | .string text => quoted text
  | .array [] => ['[', ']']
  | .array (item :: rest) => '[' :: chars item ++ itemsChars rest
  | .object [] => ['\x7b', '\x7d']
  | .object ((key, value) :: rest) =>
    '\x7b' :: quoted key ++ ':' :: chars value ++ membersChars rest

/-- Further items of an array and its end. -/
def itemsChars : List Value → List Char
  | [] => [']']
  | item :: rest => ',' :: chars item ++ itemsChars rest

/-- Further members of an object and its end. -/
def membersChars : List (String × Value) → List Char
  | [] => ['\x7d']
  | (key, value) :: rest => ',' :: quoted key ++ ':' :: chars value ++ membersChars rest

end

/-- A value as text, without blanks. -/
def text (value : Value) : String := String.ofList value.chars

end Value

end WireBridge.Json
