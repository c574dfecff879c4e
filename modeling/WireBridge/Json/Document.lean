/-
**The grammar of JSON texts.**

A `Document` is the tree that a text spells, with numbers and strings as they are written. It is
read from tokens by a machine with a stack of open arrays and objects, so the depth of a text is not
limited.

* `Json.Document.ofTokens?`: the tree of a sequence of tokens;
* `Json.Document.read?`: the tree of a text.
-/

import WireBridge.Json.Token

namespace WireBridge.Json

/-- A tree with literal numbers and strings. -/
inductive Document where
  | null
  | bool (value : Bool)
  | number (literal : NumberLiteral)
  | string (literal : StringLiteral)
  | array (items : List Document)
  | object (members : List (StringLiteral × Document))

namespace Document

/-- An array or object that is still open; what it holds is kept newest first. -/
inductive Frame where
  /-- An array before its next item. -/
  | array (items : List Document)
  /-- An object before the value of a key. -/
  | object (members : List (StringLiteral × Document)) (key : StringLiteral)

/-- What may come next. -/
inductive Expected where
  /-- A value. -/
  | value
  /-- The first item of an array, or its end. -/
  | itemOrEnd
  /-- The first key of an object, or its end. -/
  | keyOrEnd
  /-- A further key of an object. -/
  | key (members : List (StringLiteral × Document))
  /-- The colon after a key. -/
  | colon (members : List (StringLiteral × Document)) (key : StringLiteral)
  /-- What follows a whole value. -/
  | afterValue (value : Document)

/-- The machine between two tokens. -/
structure Machine where
  /-- The open arrays and objects, innermost first. -/
  stack : List Frame
  /-- What may come next. -/
  expected : Expected

/-- The machine before the first token. -/
def Machine.start : Machine := ⟨[], .value⟩

/-- A token at which a value starts. -/
def openValue? (stack : List Frame) : Token → Option Machine
  | .null => some ⟨stack, .afterValue .null⟩
  | .bool value => some ⟨stack, .afterValue (.bool value)⟩
  | .number literal => some ⟨stack, .afterValue (.number literal)⟩
  | .string literal => some ⟨stack, .afterValue (.string literal)⟩
  | .leftBracket => some ⟨.array [] :: stack, .itemOrEnd⟩
  | .leftBrace => some ⟨stack, .keyOrEnd⟩
  | _ => none

/-- A token after a whole value. -/
def closeValue? (value : Document) : List Frame → Token → Option Machine
  | .array items :: stack, .comma => some ⟨.array (value :: items) :: stack, .value⟩
  | .array items :: stack, .rightBracket =>
    some ⟨stack, .afterValue (.array (value :: items).reverse)⟩
  | .object members key :: stack, .comma => some ⟨stack, .key ((key, value) :: members)⟩
  | .object members key :: stack, .rightBrace =>
    some ⟨stack, .afterValue (.object ((key, value) :: members).reverse)⟩
  | _, _ => none

/-- One token. -/
def Machine.step (machine : Machine) (token : Token) : Option Machine :=
  match machine.expected, token with
  | .value, token => openValue? machine.stack token
  | .itemOrEnd, .rightBracket =>
    match machine.stack with
    | .array items :: stack => some ⟨stack, .afterValue (.array items.reverse)⟩
    | _ => none
  | .itemOrEnd, token => openValue? machine.stack token
  | .keyOrEnd, .rightBrace => some ⟨machine.stack, .afterValue (.object [])⟩
  | .keyOrEnd, .string key => some ⟨machine.stack, .colon [] key⟩
  | .key members, .string key => some ⟨machine.stack, .colon members key⟩
  | .colon members key, .colon => some ⟨.object members key :: machine.stack, .value⟩
  | .afterValue value, token => closeValue? value machine.stack token
  | _, _ => none

/-- The tree at the end of the tokens. -/
def Machine.result? (machine : Machine) : Option Document :=
  match machine.stack, machine.expected with
  | [], .afterValue value => some value
  | _, _ => none

/-- The tree of a sequence of tokens. -/
def ofTokens? (tokens : List Token) : Option Document := do
  let reached ← tokens.foldlM Machine.step Machine.start
  reached.result?

/-- The tree of a text. -/
def read? (text : String) : Option Document := do
  let tokens ← tokens? text.toList
  ofTokens? tokens

end Document

end WireBridge.Json
