/-
**Written values are read back.**

The tokens of a value lead the machine from one that expects a value to one that has it, whatever is
open around it. So an array or an object is read item by item, and a whole text gives its value.

* `Value.document`: the tree that a value is written as;
* `Value.Builds`: tokens that give a tree wherever a value may stand;
* `Value.documentRead?_text`: a tree is read back from the text of its value;
* `Value.read?_text`: **a value within the depth that is allowed is read back from its text.**
-/

import WireBridge.Proofs.Json.Scanning

namespace WireBridge.Json

open Document (Frame Machine)

/-! ### Strings -/

namespace StringLiteral

/-- A unit that is a control character is no half of a pair. -/
theorem chars?_unit {unit : Nat} (control : unit < 32) (rest : StringLiteral) :
    chars? (.unit unit :: rest) = (chars? rest).map (Char.ofNat unit :: ·) := by
  have high : isHigh unit = false := by simp [isHigh]; omega
  have low : isLow unit = false := by simp [isLow]; omega
  match rest with
  | [] | .char _ :: _ | .unit _ :: _ => simp [chars?, high, low]

/-- A written text is read back. -/
theorem string?_literalOf (text : String) : string? (literalOf text) = some text := by
  have body (chars : List Char) : chars? (chars.map pieceOf) = some chars := by
    induction chars with
    | nil => rfl
    | cons char rest inner =>
      rw [List.map_cons]
      by_cases control : char.toNat < 32 ∧ char ∉ letterEscapes
      · rw [pieceOf, if_pos control, chars?_unit control.1, inner, Option.map_some,
          Char.ofNat_toNat]
      · rw [pieceOf, if_neg control, chars?, inner, Option.map_some]
  rw [string?, literalOf, body, Option.map_some, String.ofList_toList]

end StringLiteral

namespace Value

/-! ### Nesting -/

/-- Tokens that open and close what they open, at most so deep. -/
def Nests (depth : Nat) (tokens : List Token) : Prop :=
  ∀ around most, ∃ deepest, tokens.foldl nest (around, most) = (around, deepest) ∧
    deepest ≤ max most (around + depth)

/-- Tokens that close what is open around them. -/
def NestsOn (depth : Nat) (tokens : List Token) : Prop :=
  ∀ around most, ∃ deepest, tokens.foldl nest (around + 1, most) = (around, deepest) ∧
    deepest ≤ max most (around + 1 + depth)

theorem Nests.after {depth : Nat} {tokens more : List Token} (nests : Nests depth tokens)
    (goesOn : NestsOn depth more) : NestsOn depth (tokens ++ more) := by
  intro around most
  obtain ⟨deepest, first, bound⟩ := nests (around + 1) most
  obtain ⟨final, second, above⟩ := goesOn around deepest
  refine ⟨final, ?_, by omega⟩
  rw [List.foldl_append, first, second]

theorem nestsOn_items {depth : Nat} {items : List Value}
    (inner : ∀ item ∈ items, Nests depth item.tokens) : NestsOn depth (itemsTokens items) := by
  induction items with
  | nil => exact fun around most => ⟨most, rfl, by omega⟩
  | cons item rest later =>
    obtain ⟨first, others⟩ := List.forall_mem_cons.mp inner
    exact first.after (later others)

theorem nestsOn_members {depth : Nat} {members : List (String × Value)}
    (inner : ∀ member ∈ members, Nests depth member.2.tokens) :
    NestsOn depth (membersTokens members) := by
  induction members with
  | nil => exact fun around most => ⟨most, rfl, by omega⟩
  | cons member rest later =>
    obtain ⟨first, others⟩ := List.forall_mem_cons.mp inner
    exact first.after (later others)

theorem nests_open {depth : Nat} {opens : Token} {tokens : List Token}
    (bracket : opens = .leftBracket ∨ opens = .leftBrace) (goesOn : NestsOn depth tokens) :
    Nests (depth + 1) (opens :: tokens) := by
  intro around most
  obtain ⟨deepest, closed, bound⟩ := goesOn around (max most (around + 1))
  refine ⟨deepest, ?_, by omega⟩
  rcases bracket with rfl | rfl <;> exact closed

theorem nests_plain (depth : Nat) {token : Token} (plain : ∀ depths, nest depths token = depths) :
    Nests depth [token] :=
  fun around most => ⟨most, plain _, by omega⟩

theorem Within.nests {depth : Nat} {value : Value} (within : Within depth value) :
    Nests depth value.tokens := by
  induction within with
  | null | bool | number | string => exact nests_plain _ fun _ => rfl
  | @array depth items inner nests =>
    cases items with
    | nil => exact nests_open (.inl rfl) (@nestsOn_items depth [] nofun)
    | cons item rest =>
      obtain ⟨first, others⟩ := List.forall_mem_cons.mp nests
      exact nests_open (.inl rfl) (first.after (nestsOn_items others))
  | @object depth members inner nests =>
    cases members with
    | nil => exact nests_open (.inr rfl) (@nestsOn_members depth [] nofun)
    | cons member rest =>
      obtain ⟨first, others⟩ := List.forall_mem_cons.mp nests
      exact nests_open (.inr rfl) (first.after (nestsOn_members others))

theorem Within.nesting_le {depth : Nat} {value : Value} (within : Within depth value) :
    nesting value.tokens ≤ depth := by
  obtain ⟨deepest, folded, bound⟩ := within.nests 0 0
  rw [nesting, folded]
  omega

/-! ### Trees -/

mutual

/-- The tree that a value is written as. -/
def document : Value → Document
  | .null => .null
  | .bool value => .bool value
  | .number literal => .number literal
  | .string text => .string (literalOf text)
  | .array items => .array (itemDocuments items)
  | .object members => .object (memberDocuments members)

/-- The trees of the items of an array. -/
def itemDocuments : List Value → List Document
  | [] => []
  | item :: rest => document item :: itemDocuments rest

/-- The trees of the members of an object. -/
def memberDocuments : List (String × Value) → List (StringLiteral × Document)
  | [] => []
  | (key, value) :: rest => (literalOf key, document value) :: memberDocuments rest

end

/-- Tokens that give a tree wherever a value may stand. -/
def Builds (tokens : List Token) (document : Document) : Prop :=
  ∀ stack, tokens.foldlM Machine.step ⟨stack, .value⟩ = some ⟨stack, .afterValue document⟩

theorem Builds.after {tokens : List Token} {tree : Document} (builds : Builds tokens tree)
    (more : List Token) (stack : List Frame) :
    (tokens ++ more).foldlM Machine.step ⟨stack, .value⟩ =
      more.foldlM Machine.step ⟨stack, .afterValue tree⟩ := by
  rw [List.foldlM_append, builds stack]
  rfl

theorem builds_items {items : List Value}
    (inner : ∀ item ∈ items, Builds item.tokens item.document) (earlier : List Document)
    (tree : Document) (stack : List Frame) :
    (itemsTokens items).foldlM Machine.step ⟨.array earlier :: stack, .afterValue tree⟩ =
      some ⟨stack, .afterValue (.array (earlier.reverse ++ tree :: itemDocuments items))⟩ := by
  induction items generalizing earlier tree with
  | nil => simp [itemsTokens, itemDocuments, Machine.step, Document.closeValue?]
  | cons item rest later =>
    obtain ⟨first, others⟩ := List.forall_mem_cons.mp inner
    refine (first.after (itemsTokens rest) (.array (tree :: earlier) :: stack)).trans ?_
    rw [later others, itemDocuments]
    simp

theorem builds_members {members : List (String × Value)}
    (inner : ∀ member ∈ members, Builds member.2.tokens member.2.document)
    (earlier : List (StringLiteral × Document)) (key : StringLiteral) (tree : Document)
    (stack : List Frame) :
    (membersTokens members).foldlM Machine.step ⟨.object earlier key :: stack, .afterValue tree⟩ =
      some ⟨stack, .afterValue (.object (earlier.reverse ++ (key, tree) ::
        memberDocuments members))⟩ := by
  induction members generalizing earlier key tree with
  | nil => simp [membersTokens, memberDocuments, Machine.step, Document.closeValue?]
  | cons member rest later =>
    obtain ⟨first, others⟩ := List.forall_mem_cons.mp inner
    obtain ⟨name, value⟩ := member
    refine (first.after (membersTokens rest)
      (.object ((key, tree) :: earlier) (literalOf name) :: stack)).trans ?_
    rw [later others, memberDocuments]
    simp

/-- The first token of a value does not close an array. -/
theorem tokens_cons (value : Value) :
    ∃ first rest, value.tokens = first :: rest ∧ first ≠ .rightBracket := by
  cases value with
  | null | bool | number | string => exact ⟨_, _, rfl, nofun⟩
  | array items => cases items <;> exact ⟨_, _, rfl, nofun⟩
  | object members => cases members <;> exact ⟨_, _, rfl, nofun⟩

/-- The first item of an array is read as any value. -/
theorem foldlM_itemOrEnd {first : Token} (item : first ≠ .rightBracket) (rest : List Token)
    (stack : List Frame) :
    (first :: rest).foldlM Machine.step ⟨stack, .itemOrEnd⟩ =
      (first :: rest).foldlM Machine.step ⟨stack, .value⟩ := by
  cases first <;> first | rfl | exact absurd rfl item

theorem Within.builds {depth : Nat} {value : Value} (within : Within depth value) :
    Builds value.tokens value.document := by
  induction within with
  | null | bool | number | string => exact fun stack => rfl
  | @array depth items inner builds =>
    intro stack
    cases items with
    | nil => rfl
    | cons item rest =>
      obtain ⟨here, others⟩ := List.forall_mem_cons.mp builds
      obtain ⟨first, later, same, opens⟩ := tokens_cons item
      have read := here.after (itemsTokens rest) (.array [] :: stack)
      rw [same, List.cons_append, ← foldlM_itemOrEnd opens, ← List.cons_append, ← same,
        builds_items others] at read
      exact read
  | @object depth members inner builds =>
    intro stack
    cases members with
    | nil => rfl
    | cons member rest =>
      obtain ⟨first, others⟩ := List.forall_mem_cons.mp builds
      obtain ⟨key, value⟩ := member
      exact (first.after (membersTokens rest) (.object [] (literalOf key) :: stack)).trans
        (builds_members others [] _ _ stack)

theorem Within.ofTokens? {depth : Nat} {value : Value} (within : Within depth value) :
    Document.ofTokens? value.tokens = some value.document := by
  simp [Document.ofTokens?, Machine.start, within.builds [], Machine.result?]

/-- **The tree of a value is read back from its text**, however deep it is. -/
theorem documentRead?_text {depth : Nat} {value : Value} (within : Within depth value) :
    Document.read? value.text = some value.document := by
  rw [Document.read?, text, String.toList_ofList, tokens?_chars within]
  exact within.ofTokens?

theorem ofItems?_documents {items : List Value}
    (inner : ∀ item ∈ items, ofDocument? item.document = some item) :
    ofItems? (itemDocuments items) = some items := by
  induction items with
  | nil => rfl
  | cons item rest later =>
    obtain ⟨first, others⟩ := List.forall_mem_cons.mp inner
    rw [itemDocuments, ofItems?, first, later others]
    rfl

theorem ofMembers?_documents {members : List (String × Value)}
    (inner : ∀ member ∈ members, ofDocument? member.2.document = some member.2) :
    ofMembers? (memberDocuments members) = some members := by
  induction members with
  | nil => rfl
  | cons member rest later =>
    obtain ⟨first, others⟩ := List.forall_mem_cons.mp inner
    obtain ⟨key, value⟩ := member
    rw [memberDocuments, ofMembers?, StringLiteral.string?_literalOf, first, later others]
    rfl

theorem Within.ofDocument? {depth : Nat} {value : Value} (within : Within depth value) :
    ofDocument? value.document = some value := by
  induction within with
  | null | bool => rfl
  | number proper inRange => exact if_pos inRange
  | string text =>
    rw [document, Value.ofDocument?, StringLiteral.string?_literalOf, Option.map_some]
  | array inner known =>
    rw [document, Value.ofDocument?, ofItems?_documents known, Option.map_some]
  | object inner known =>
    rw [document, Value.ofDocument?, ofMembers?_documents known, Option.map_some]

/-- **A value within the depth that is allowed is read back from its text.** -/
theorem read?_text {depth : Nat} {value : Value} (within : Within depth value)
    (allowed : depth ≤ maxNesting) : read? value.text = some value := by
  have shallow : ¬ maxNesting < nesting value.tokens :=
    Nat.not_lt.mpr (Nat.le_trans within.nesting_le allowed)
  rw [read?, text, String.toList_ofList, tokens?_chars within]
  simp [shallow, within.ofTokens?, within.ofDocument?]

/-! ### Numbers in values -/

theorem within_ofNat {number : Nat} (word : number ≤ NumberLiteral.maxWord) (depth : Nat) :
    Within depth (ofNat number) :=
  .number (NumberLiteral.proper_ofNat number) (NumberLiteral.inRange_ofNat word)

theorem word_byte (byte : UInt8) : byte.toNat ≤ NumberLiteral.maxWord :=
  Nat.le_trans (Nat.le_of_lt byte.toNat_lt) (by decide)

end Value

end WireBridge.Json
