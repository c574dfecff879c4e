/-
**The tokens of a written value.**

The characters that a value is written with are cut into its tokens again. A number ends only where
something else begins, so what is known after a value is that the reader is about to settle: it gives
the tokens whether the text ends or goes on with a comma or a bracket.

* `Value.Within`: values that can be read back, down to a depth of nesting;
* `Value.tokens`: the tokens of a value;
* `Scanner.Settles`: the reader at the end of a value;
* `Value.tokens?_chars`: **a written value is cut into its tokens.**
-/

import WireBridge.Proofs.Json.Numbers

namespace WireBridge.Json

/-! ### Strings -/

theorem value?_smallDigit {value : Nat} (small : value < 16) :
    Hex.value? (Hex.smallDigit value) = some value := by
  have every : ∀ number : Fin 16, Hex.value? (Hex.smallDigit number.val) = some number.val := by
    decide
  exact every ⟨value, small⟩

/-- Control characters with an escape of one letter. -/
def letterEscapes : List Char := ['\x08', '\x0c', '\n', '\r', '\t']

/-- The piece that a character is written as. -/
def pieceOf (char : Char) : Piece :=
  if char.toNat < 32 ∧ char ∉ letterEscapes then .unit char.toNat else .char char

/-- The literal that a text is written as. -/
def literalOf (text : String) : StringLiteral := text.toList.map pieceOf

namespace Scanner

/-- A written character is read as its piece. -/
theorem step_escaped (emitted : List Token) (pieces : List Piece) (char : Char) :
    (Value.escaped char).foldlM step ⟨emitted, .quoted pieces⟩ =
      some ⟨emitted, .quoted (pieceOf char :: pieces)⟩ := by
  by_cases quote : char = '"'
  · subst quote
    rfl
  by_cases backslash : char = '\\'
  · subst backslash
    rfl
  by_cases lettered : char ∈ letterEscapes
  · simp only [letterEscapes, List.mem_cons, List.not_mem_nil, or_false] at lettered
    rcases lettered with rfl | rfl | rfl | rfl | rfl <;> rfl
  have plain : Value.escaped char = if char.toNat < 32 then
      ['\\', 'u', '0', '0', Hex.smallDigit (char.toNat / 16), Hex.smallDigit (char.toNat % 16)]
      else [char] := by
    simp only [letterEscapes, List.mem_cons, List.not_mem_nil, or_false, not_or] at lettered
    obtain ⟨bell, feed, line, back, tab⟩ := lettered
    simp only [Value.escaped, quote, backslash, bell, feed, line, back, tab, if_false]
  rw [plain]
  by_cases control : char.toNat < 32
  · rw [if_pos control]
    have piece : pieceOf char = .unit char.toNat := if_pos ⟨control, lettered⟩
    have high := @value?_smallDigit (char.toNat / 16) (by omega)
    have low := @value?_smallDigit (char.toNat % 16) (Nat.mod_lt _ (by decide))
    have zero : Hex.value? '0' = some 0 := by decide
    simp [step, enter, high, low, zero, piece, Nat.div_add_mod]
  · rw [if_neg control]
    have piece : pieceOf char = .char char := if_neg fun both => control both.1
    simp [step, enter, quote, backslash, control, piece]

/-- A quoted text is read as its literal. -/
theorem foldlM_quoted (emitted : List Token) (text : String) :
    (Value.quoted text).foldlM step ⟨emitted, .between⟩ =
      some ⟨.string (literalOf text) :: emitted, .between⟩ := by
  have body (chars : List Char) (pieces : List Piece) :
      (chars.flatMap Value.escaped).foldlM step ⟨emitted, .quoted pieces⟩ =
        some ⟨emitted, .quoted ((chars.map pieceOf).reverse ++ pieces)⟩ := by
    induction chars generalizing pieces with
    | nil => rfl
    | cons char rest inner =>
      rw [List.flatMap_cons, List.foldlM_append, step_escaped]
      simpa using inner (pieceOf char :: pieces)
  rw [Value.quoted, List.cons_append, List.foldlM_cons]
  show (text.toList.flatMap Value.escaped ++ ['"']).foldlM step ⟨emitted, .quoted []⟩ = _
  rw [List.foldlM_append, body]
  simp [step, emit, literalOf]

/-- The reader at the end of a value: the text may end here, or go on with what follows a value. -/
structure Settles (scanner : Scanner) (emitted : List Token) : Prop where
  closes : scanner.close? = some ⟨emitted, .between⟩
  goesOn : ∀ char ∈ [',', ']', '\x7d'],
    scanner.step char = (⟨emitted, .between⟩ : Scanner).step char

/-- What follows a value is part of no word and of no number. -/
theorem apart_of_follows {char : Char} (follows : char ∈ [',', ']', '\x7d']) :
    char.isAlpha = false ∧ inNumber char = false := by
  simp only [List.mem_cons, List.not_mem_nil, or_false] at follows
  rcases follows with rfl | rfl | rfl <;> decide

theorem settles_between (emitted : List Token) : Settles ⟨emitted, .between⟩ emitted :=
  ⟨rfl, fun _ _ => rfl⟩

theorem settles_word {emitted : List Token} {chars : List Char} {token : Token}
    (word : wordToken? chars.reverse = some token) :
    Settles ⟨emitted, .word chars⟩ (token :: emitted) := by
  have closed : (⟨emitted, .word chars⟩ : Scanner).close? = some ⟨token :: emitted, .between⟩ := by
    simp [close?, word, emit]
  refine ⟨closed, fun char follows => ?_⟩
  have other := (apart_of_follows follows).1
  simp [step, other, closed]

theorem settles_number {emitted : List Token} {chars : List Char} {literal : NumberLiteral}
    (number : NumberLiteral.read? chars.reverse = some literal) :
    Settles ⟨emitted, .number chars⟩ (.number literal :: emitted) := by
  have closed : (⟨emitted, .number chars⟩ : Scanner).close? =
      some ⟨.number literal :: emitted, .between⟩ := by
    simp [close?, number, emit]
  refine ⟨closed, fun char follows => ?_⟩
  have other := (apart_of_follows follows).2
  simp [step, other, closed]

theorem inNumber_digits {digits : List Nat} (small : ∀ digit ∈ digits, digit < 10) :
    ∀ char ∈ digits.map Decimal.digitChar, inNumber char = true := by
  intro char member
  obtain ⟨digit, listed, rfl⟩ := List.mem_map.mp member
  simp [inNumber, Decimal.isDigit_digitChar (small digit listed)]

/-- The characters of a literal are those of numbers. -/
theorem inNumber_chars {literal : NumberLiteral} (proper : literal.Proper) :
    ∀ char ∈ literal.chars, inNumber char = true := by
  obtain ⟨wholeSmall, fractionSmall⟩ := List.forall_mem_append.mp proper.small
  have fraction : ∀ char ∈ NumberLiteral.fractionChars literal.fraction, inNumber char = true := by
    rw [NumberLiteral.fractionChars]
    split
    · exact List.forall_mem_nil _
    · exact List.forall_mem_cons.mpr ⟨by decide, inNumber_digits fractionSmall⟩
  have exponent : ∀ char ∈ NumberLiteral.exponentChars literal.exponent, inNumber char = true := by
    cases same : literal.exponent with
    | none => exact List.forall_mem_nil _
    | some exponent =>
      obtain ⟨down, digits⟩ := exponent
      have sign : inNumber (if down then '-' else '+') = true := by cases down <;> decide
      refine List.forall_mem_cons.mpr ⟨by decide, List.forall_mem_cons.mpr ⟨sign, ?_⟩⟩
      exact inNumber_digits (proper.exponent down digits same).2
  have sign : ∀ char ∈ (if literal.negative then ['-'] else []), inNumber char = true := by
    split
    · exact List.forall_mem_singleton.mpr (by decide)
    · exact List.forall_mem_nil _
  rw [NumberLiteral.chars_eq]
  exact List.forall_mem_append.mpr ⟨sign, List.forall_mem_append.mpr
    ⟨inNumber_digits wholeSmall, List.forall_mem_append.mpr ⟨fraction, exponent⟩⟩⟩

/-- A number starts with a digit or a sign. -/
theorem chars_cons {literal : NumberLiteral} (proper : literal.Proper) :
    ∃ first rest, literal.chars = first :: rest ∧ (first.isDigit || first == '-') = true := by
  have small := proper.small
  have allowed := proper.whole
  rw [NumberLiteral.chars_eq]
  obtain ⟨negative, whole, fraction, exponent⟩ := literal
  cases negative with
  | true => exact ⟨'-', _, rfl, by decide⟩
  | false =>
    cases whole with
    | nil => cases allowed
    | cons first rest =>
      refine ⟨Decimal.digitChar first, _, rfl, ?_⟩
      rw [Decimal.isDigit_digitChar (small first (by simp)), Bool.true_or]

theorem open_number {char : Char} (starts : (char.isDigit || char == '-') = true)
    (emitted : List Token) :
    (⟨emitted, .between⟩ : Scanner).open? char = some ⟨emitted, .number [char]⟩ := by
  have dark : isBlank char = false := by
    refine Bool.eq_false_iff.mpr fun blank => ?_
    simp only [isBlank, Bool.or_eq_true, beq_iff_eq] at blank
    rcases blank with ((rfl | rfl) | rfl) | rfl <;> exact absurd starts (by decide)
  have unquoted : char ≠ '"' := by
    rintro rfl
    exact absurd starts (by decide)
  rw [open?, dark, if_neg Bool.false_ne_true, if_neg unquoted, if_pos starts, enter]

/-- A written number is read, up to its end. -/
theorem foldlM_number {literal : NumberLiteral} (proper : literal.Proper) (emitted : List Token) :
    ∃ scanner, literal.chars.foldlM step ⟨emitted, .between⟩ = some scanner ∧
      scanner.Settles (.number literal :: emitted) := by
  have body (rest : List Char) (more : ∀ char ∈ rest, inNumber char = true) (chars : List Char) :
      rest.foldlM step ⟨emitted, .number chars⟩ =
        some ⟨emitted, .number (rest.reverse ++ chars)⟩ := by
    induction rest generalizing chars with
    | nil => rfl
    | cons char rest inner =>
      obtain ⟨first, later⟩ := List.forall_mem_cons.mp more
      simp [step, first, enter, inner later]
  obtain ⟨first, rest, same, starts⟩ := chars_cons proper
  have inside := inNumber_chars proper
  have read := NumberLiteral.read?_chars proper
  rw [same] at inside read ⊢
  refine ⟨⟨emitted, .number (rest.reverse ++ [first])⟩, ?_, ?_⟩
  · rw [List.foldlM_cons]
    show ((⟨emitted, .between⟩ : Scanner).open? first >>= rest.foldlM step) = _
    rw [open_number starts]
    exact body rest (List.forall_mem_cons.mp inside).2 [first]
  · refine settles_number ?_
    rwa [List.reverse_append, List.reverse_reverse]

end Scanner

/-! ### Values -/

namespace Value

/-- A value whose text is read back: its numbers are written in one way and in range, and it is
nested at most so deep. -/
inductive Within : Nat → Value → Prop where
  | null {depth : Nat} : Within depth .null
  | bool {depth : Nat} (value : Bool) : Within depth (.bool value)
  | number {depth : Nat} {literal : NumberLiteral} (proper : literal.Proper)
      (inRange : literal.inRange = true) : Within depth (.number literal)
  | string {depth : Nat} (text : String) : Within depth (.string text)
  | array {depth : Nat} {items : List Value} (inner : ∀ item ∈ items, Within depth item) :
    Within (depth + 1) (.array items)
  | object {depth : Nat} {members : List (String × Value)}
      (inner : ∀ member ∈ members, Within depth member.2) : Within (depth + 1) (.object members)

mutual

/-- The tokens of a value. -/
def tokens : Value → List Token
  | .null => [.null]
  | .bool value => [.bool value]
  | .number literal => [.number literal]
  | .string text => [.string (literalOf text)]
  | .array [] => [.leftBracket, .rightBracket]
  | .array (item :: rest) => .leftBracket :: tokens item ++ itemsTokens rest
  | .object [] => [.leftBrace, .rightBrace]
  | .object ((key, value) :: rest) =>
    .leftBrace :: .string (literalOf key) :: .colon :: tokens value ++ membersTokens rest

/-- The tokens of further items of an array and its end. -/
def itemsTokens : List Value → List Token
  | [] => [.rightBracket]
  | item :: rest => .comma :: tokens item ++ itemsTokens rest

/-- The tokens of further members of an object and its end. -/
def membersTokens : List (String × Value) → List Token
  | [] => [.rightBrace]
  | (key, value) :: rest =>
    .comma :: .string (literalOf key) :: .colon :: tokens value ++ membersTokens rest

end

/-- The reader cuts the characters into the tokens and is about to settle. -/
def Scans (chars : List Char) (tokens : List Token) : Prop :=
  ∀ emitted, ∃ scanner, chars.foldlM Scanner.step ⟨emitted, .between⟩ = some scanner ∧
    scanner.Settles (tokens.reverse ++ emitted)

/-- The same for what follows a value, after which the reader has settled. -/
def ScansOn (chars : List Char) (tokens : List Token) : Prop :=
  ∀ scanner emitted, Scanner.Settles scanner emitted →
    chars.foldlM Scanner.step scanner = some ⟨tokens.reverse ++ emitted, .between⟩

/-- What follows a value is read after it. -/
theorem Scans.after {chars : List Char} {tokens : List Token} (scans : Scans chars tokens)
    {rest : List Char} {more : List Token} (goesOn : ScansOn rest more) (emitted : List Token) :
    (chars ++ rest).foldlM Scanner.step ⟨emitted, .between⟩ =
      some ⟨(tokens ++ more).reverse ++ emitted, .between⟩ := by
  obtain ⟨scanner, read, settles⟩ := scans emitted
  rw [List.foldlM_append, read, List.reverse_append, List.append_assoc]
  exact goesOn scanner _ settles

theorem scansOn_items {items : List Value} (inner : ∀ item ∈ items, Scans item.chars item.tokens) :
    ScansOn (itemsChars items) (itemsTokens items) := by
  induction items with
  | nil =>
    intro scanner emitted settles
    rw [itemsChars, itemsTokens, List.foldlM_cons, settles.goesOn _ (by simp)]
    rfl
  | cons item rest later =>
    intro scanner emitted settles
    obtain ⟨first, others⟩ := List.forall_mem_cons.mp inner
    rw [itemsChars, itemsTokens, List.cons_append, List.foldlM_cons,
      settles.goesOn _ (by simp)]
    exact (first.after (later others) (.comma :: emitted)).trans (by simp)

/-- A key, the colon and the value. -/
theorem Scans.member (key : String) {chars : List Char} {tokens : List Token}
    (scans : Scans chars tokens) :
    Scans (quoted key ++ ':' :: chars) (.string (literalOf key) :: .colon :: tokens) := by
  intro emitted
  obtain ⟨scanner, read, settles⟩ := scans (.colon :: .string (literalOf key) :: emitted)
  refine ⟨scanner, ?_, by simpa using settles⟩
  rw [List.foldlM_append, Scanner.foldlM_quoted]
  exact read

theorem scansOn_members {members : List (String × Value)}
    (inner : ∀ member ∈ members, Scans member.2.chars member.2.tokens) :
    ScansOn (membersChars members) (membersTokens members) := by
  induction members with
  | nil =>
    intro scanner emitted settles
    rw [membersChars, membersTokens, List.foldlM_cons, settles.goesOn _ (by simp)]
    rfl
  | cons member rest later =>
    intro scanner emitted settles
    obtain ⟨first, others⟩ := List.forall_mem_cons.mp inner
    obtain ⟨key, value⟩ := member
    rw [membersChars, membersTokens, List.cons_append, List.cons_append, List.foldlM_cons,
      settles.goesOn _ (by simp)]
    exact ((first.member key).after (later others) (.comma :: emitted)).trans (by simp)

/-- What is read up to a single token at the end has settled. -/
theorem scans_of_foldlM {chars : List Char} {tokens : List Token}
    (read : ∀ emitted, chars.foldlM Scanner.step ⟨emitted, .between⟩ =
      some ⟨tokens.reverse ++ emitted, .between⟩) : Scans chars tokens :=
  fun emitted => ⟨_, read emitted, Scanner.settles_between _⟩

theorem Within.scans {depth : Nat} {value : Value} (within : Within depth value) :
    Scans value.chars value.tokens := by
  induction within with
  | null => exact fun emitted => ⟨_, rfl, Scanner.settles_word rfl⟩
  | bool value => cases value <;> exact fun emitted => ⟨_, rfl, Scanner.settles_word rfl⟩
  | number proper inRange => exact Scanner.foldlM_number proper
  | string text => exact scans_of_foldlM fun emitted => Scanner.foldlM_quoted emitted text
  | @array depth items inner scans =>
    cases items with
    | nil => exact scans_of_foldlM fun emitted => rfl
    | cons item rest =>
      obtain ⟨first, others⟩ := List.forall_mem_cons.mp scans
      refine scans_of_foldlM fun emitted => ?_
      exact (first.after (scansOn_items others) (.leftBracket :: emitted)).trans (by simp [tokens])
  | @object depth members inner scans =>
    cases members with
    | nil => exact scans_of_foldlM fun emitted => rfl
    | cons member rest =>
      obtain ⟨first, others⟩ := List.forall_mem_cons.mp scans
      obtain ⟨key, value⟩ := member
      refine scans_of_foldlM fun emitted => ?_
      exact ((first.member key).after (scansOn_members others) (.leftBrace :: emitted)).trans
        (by simp [tokens])

/-- **A written value is cut into its tokens.** -/
theorem tokens?_chars {depth : Nat} {value : Value} (within : Within depth value) :
    tokens? value.chars = some value.tokens := by
  obtain ⟨scanner, read, settles⟩ := within.scans []
  simp [tokens?, Scanner.start, read, settles.closes]

end Value

end WireBridge.Json
