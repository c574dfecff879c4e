/-
**Tokens of JSON texts.**

A text is cut into tokens character by character. Tokens keep the literal forms of numbers and
strings, because whether an escape stands for a character, or whether a number is in range, matters
only where the value is used.

* `Json.NumberLiteral`, `Json.Piece`: the literal forms;
* `Json.tokens?`: the tokens of a text, or nothing if a token is malformed;
* `Json.nesting`: the deepest nesting of arrays and objects.
-/

import WireBridge.Decimal.Digits
import WireBridge.Text.Hex

namespace WireBridge.Json

/-- A number as it is written. Digits are listed most significant first. -/
structure NumberLiteral where
  /-- There is a minus sign. -/
  negative : Bool
  /-- The digits before the point. -/
  whole : List Nat
  /-- The digits after the point; none if there is no point. -/
  fraction : List Nat
  /-- The sign and the digits of the exponent, if there is one. -/
  exponent : Option (Bool × List Nat)
deriving DecidableEq

/-- A part of a string as it is written. -/
inductive Piece where
  /-- A character, plain or escaped by a backslash. -/
  | char (char : Char)
  /-- A sixteen-bit unit in hexadecimal digits. -/
  | unit (value : Nat)
deriving DecidableEq

/-- A string as it is written. -/
abbrev StringLiteral := List Piece

/-- A token. -/
inductive Token where
  | leftBracket
  | rightBracket
  | leftBrace
  | rightBrace
  | comma
  | colon
  | null
  | bool (value : Bool)
  | number (literal : NumberLiteral)
  | string (literal : StringLiteral)
deriving DecidableEq

/-! ### Numbers -/

/-- The digits at the start of a text, and the rest. -/
def spanDigits : List Char → List Nat × List Char
  | [] => ([], [])
  | char :: rest =>
    match Decimal.digit? char with
    | some digit => (digit :: (spanDigits rest).1, (spanDigits rest).2)
    | none => ([], char :: rest)

namespace NumberLiteral

/-- Whether digits may stand before the point: at least one, and no needless leading zero. -/
def wholeAllowed : List Nat → Bool
  | [] => false
  | [_] => true
  | first :: _ => first != 0

/-- The sign and the digits of an exponent. -/
def readExponent? (negative : Bool) (whole fraction : List Nat) (chars : List Char) :
    Option NumberLiteral :=
  let (down, unsigned) := match chars with
    | '-' :: rest => (true, rest)
    | '+' :: rest => (false, rest)
    | _ => (false, chars)
  match spanDigits unsigned with
  | ([], _) => none
  | (digits, []) => some ⟨negative, whole, fraction, some (down, digits)⟩
  | _ => none

/-- What follows the digits before the exponent. -/
def readTail? (negative : Bool) (whole fraction : List Nat) : List Char → Option NumberLiteral
  | [] => some ⟨negative, whole, fraction, none⟩
  | 'e' :: rest => readExponent? negative whole fraction rest
  | 'E' :: rest => readExponent? negative whole fraction rest
  | _ => none

/-- A number without its sign. -/
def readUnsigned? (negative : Bool) (chars : List Char) : Option NumberLiteral :=
  let (whole, rest) := spanDigits chars
  if wholeAllowed whole then
    match rest with
    | '.' :: decimals =>
      match spanDigits decimals with
      | ([], _) => none
      | (fraction, tail) => readTail? negative whole fraction tail
    | _ => readTail? negative whole [] rest
  else none

/-- The number that a text spells. -/
def read? : List Char → Option NumberLiteral
  | '-' :: rest => readUnsigned? true rest
  | chars => readUnsigned? false chars

/-- The literal of a natural number. -/
def ofNat (number : Nat) : NumberLiteral := ⟨false, Decimal.digits number, [], none⟩

/-- The characters of a literal. -/
def chars (literal : NumberLiteral) : List Char :=
  (if literal.negative then ['-'] else []) ++ literal.whole.map Decimal.digitChar ++
    (if literal.fraction.isEmpty then [] else '.' :: literal.fraction.map Decimal.digitChar) ++
    match literal.exponent with
    | none => []
    | some (down, digits) => 'e' :: (if down then '-' else '+') :: digits.map Decimal.digitChar

end NumberLiteral

/-! ### The reader of tokens -/

/-- What the reader of tokens is in the middle of. Partial texts are kept newest first. -/
inductive Mode where
  | between
  | number (chars : List Char)
  | word (chars : List Char)
  | quoted (pieces : List Piece)
  | escaped (pieces : List Piece)
  | unit (pieces : List Piece) (count value : Nat)
deriving DecidableEq

/-- The reader of tokens between two characters. -/
structure Scanner where
  /-- The tokens read, newest first. -/
  emitted : List Token
  /-- What it is in the middle of. -/
  mode : Mode
deriving DecidableEq

namespace Scanner

/-- The reader before the first character. -/
def start : Scanner := ⟨[], .between⟩

/-- The reader after a whole token. -/
def emit (scanner : Scanner) (token : Token) : Scanner := ⟨token :: scanner.emitted, .between⟩

/-- The reader in the middle of something. -/
def enter (scanner : Scanner) (mode : Mode) : Scanner := { scanner with mode := mode }

/-- The token of a word. -/
def wordToken? (chars : List Char) : Option Token :=
  if chars = ['n', 'u', 'l', 'l'] then some .null
  else if chars = ['t', 'r', 'u', 'e'] then some (.bool true)
  else if chars = ['f', 'a', 'l', 's', 'e'] then some (.bool false)
  else none

/-- The reader when a number or a word can go no further. -/
def close? (scanner : Scanner) : Option Scanner :=
  match scanner.mode with
  | .between => some scanner
  | .number chars => (NumberLiteral.read? chars.reverse).map fun literal =>
      scanner.emit (.number literal)
  | .word chars => (wordToken? chars.reverse).map scanner.emit
  | _ => none

/-- The characters between tokens that mean nothing. -/
def isBlank (char : Char) : Bool :=
  char == ' ' || char == '\n' || char == '\t' || char == '\r'

/-- The characters that numbers consist of. -/
def inNumber (char : Char) : Bool :=
  char.isDigit || char == '-' || char == '+' || char == '.' || char == 'e' || char == 'E'

/-- The token that one character is. -/
def punctuation? (char : Char) : Option Token :=
  if char = '[' then some .leftBracket
  else if char = ']' then some .rightBracket
  else if char = '\x7b' then some .leftBrace
  else if char = '\x7d' then some .rightBrace
  else if char = ',' then some .comma
  else if char = ':' then some .colon
  else none

/-- A character at which a token may start. -/
def open? (scanner : Scanner) (char : Char) : Option Scanner :=
  if isBlank char then some scanner
  else if char = '"' then some (scanner.enter (.quoted []))
  else if char.isDigit || char == '-' then some (scanner.enter (.number [char]))
  else if char.isAlpha then some (scanner.enter (.word [char]))
  else (punctuation? char).map scanner.emit

/-- The character that a one-letter escape stands for. -/
def escape? (char : Char) : Option Char :=
  if char = '"' then some '"'
  else if char = '\\' then some '\\'
  else if char = '/' then some '/'
  else if char = 'b' then some '\x08'
  else if char = 'f' then some '\x0c'
  else if char = 'n' then some '\n'
  else if char = 'r' then some '\r'
  else if char = 't' then some '\t'
  else none

/-- One character. -/
def step (scanner : Scanner) (char : Char) : Option Scanner :=
  match scanner.mode with
  | .between => scanner.open? char
  | .number chars =>
    if inNumber char then some (scanner.enter (.number (char :: chars)))
    else scanner.close?.bind (·.open? char)
  | .word chars =>
    if char.isAlpha then some (scanner.enter (.word (char :: chars)))
    else scanner.close?.bind (·.open? char)
  | .quoted pieces =>
    if char = '"' then some (scanner.emit (.string pieces.reverse))
    else if char = '\\' then some (scanner.enter (.escaped pieces))
    else if char.toNat < 32 then none
    else some (scanner.enter (.quoted (.char char :: pieces)))
  | .escaped pieces =>
    if char = 'u' then some (scanner.enter (.unit pieces 0 0))
    else (escape? char).map fun meant => scanner.enter (.quoted (.char meant :: pieces))
  | .unit pieces count value =>
    (Hex.value? char).map fun digit =>
      let longer := 16 * value + digit
      if count = 3 then scanner.enter (.quoted (.unit longer :: pieces))
      else scanner.enter (.unit pieces (count + 1) longer)

end Scanner

/-- The tokens of a text. -/
def tokens? (chars : List Char) : Option (List Token) := do
  let read ← chars.foldlM Scanner.step Scanner.start
  let closed ← read.close?
  pure closed.emitted.reverse

/-- The nesting before and the deepest nesting so far, after one more token. -/
def nest (depths : Nat × Nat) : Token → Nat × Nat
  | .leftBracket => (depths.1 + 1, max depths.2 (depths.1 + 1))
  | .leftBrace => (depths.1 + 1, max depths.2 (depths.1 + 1))
  | .rightBracket => (depths.1 - 1, depths.2)
  | .rightBrace => (depths.1 - 1, depths.2)
  | _ => depths

/-- The deepest nesting of arrays and objects. -/
def nesting (tokens : List Token) : Nat := (tokens.foldl nest (0, 0)).2

end WireBridge.Json
