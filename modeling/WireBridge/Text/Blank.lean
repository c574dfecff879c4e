/-
**Blank characters.**

* `isBlank`: the white space of the Unicode standard;
* `trimmed`: a text without the blanks at its ends.
-/

namespace WireBridge.Text

/-- The first and last codes of each run of white space. -/
def blankRuns : List (Nat × Nat) :=
  [(0x9, 0xd), (0x20, 0x20), (0x85, 0x85), (0xa0, 0xa0), (0x1680, 0x1680), (0x2000, 0x200a),
    (0x2028, 0x2029), (0x202f, 0x202f), (0x205f, 0x205f), (0x3000, 0x3000)]

/-- Whether a character is white space. -/
def isBlank (char : Char) : Bool :=
  blankRuns.any fun (first, last) => first ≤ char.toNat && char.toNat ≤ last

/-- Every blank of plain text is white space. -/
theorem isBlank_of_isWhitespace {char : Char} (plain : char.isWhitespace = true) :
    isBlank char = true := by
  simp only [Char.isWhitespace, Bool.or_eq_true, decide_eq_true_eq] at plain
  rcases plain with ((rfl | rfl) | rfl) | rfl <;> decide

/-- Characters without the blanks at both ends. -/
def trimmedChars (chars : List Char) : List Char :=
  (((chars.dropWhile isBlank).reverse).dropWhile isBlank).reverse

/-- A text without the blanks at its ends. -/
def trimmed (text : String) : String := String.ofList (trimmedChars text.toList)

/-- There is nothing left of blanks. -/
theorem trimmedChars_blank {chars : List Char} (blank : ∀ char ∈ chars, isBlank char = true) :
    trimmedChars chars = [] := by
  have dropped : chars.dropWhile isBlank = [] := by
    induction chars with
    | nil => rfl
    | cons char rest ih =>
      rw [List.dropWhile_cons_of_pos (blank char (by simp))]
      exact ih fun other member => blank other (by simp [member])
  simp [trimmedChars, dropped]

end WireBridge.Text
