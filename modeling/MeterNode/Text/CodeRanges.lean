/-!
# Classes of characters

A property of characters is kept as a list of ranges of their numbers, both ends included.  The
table of a property is `Apart`: its ranges rise and neighbours leave a gap, so every property has
one table.  `covers` looks a number up in a table, and `size` counts its characters.

Two classes of blank characters are in use.  Requests and status lines are cut at the five ASCII
blanks.  Settings and header values are trimmed of every character with the Unicode property
`White_Space`, of which there are twenty-five.
-/

namespace MeterNode.Text

/-- Ranges of character numbers, both ends included. -/
abbrev CodeRanges := List (Nat × Nat)

namespace CodeRanges

/-- Whether a number lies in one of the ranges. -/
def covers (rs : CodeRanges) (n : Nat) : Bool :=
  rs.any fun r => r.1 ≤ n && n ≤ r.2

/-- How many numbers the ranges hold, each range counted by itself. -/
def size (rs : CodeRanges) : Nat :=
  rs.foldr (fun r n => r.2 + 1 - r.1 + n) 0

/-- No range is empty, and each ends at least two before the next one starts. -/
def Apart : CodeRanges → Prop
  | [] => True
  | [r] => r.1 ≤ r.2
  | r :: s :: rs => r.1 ≤ r.2 ∧ r.2 + 1 < s.1 ∧ Apart (s :: rs)

instance decidableApart : (rs : CodeRanges) → Decidable rs.Apart
  | [] => .isTrue trivial
  | [r] => inferInstanceAs (Decidable (r.1 ≤ r.2))
  | r :: s :: rs =>
      have := decidableApart (s :: rs)
      inferInstanceAs (Decidable (r.1 ≤ r.2 ∧ r.2 + 1 < s.1 ∧ Apart (s :: rs)))

end CodeRanges

/-! ## Blanks -/

/-- The blanks that separate the words of a request or status line. -/
def isAsciiBlank (c : Char) : Bool :=
  c = ' ' || c = '\t' || c = '\n' || c = '\r' || c = '\x0c'

/-- The characters with the Unicode property `White_Space`. -/
def blankRanges : CodeRanges :=
  [(0x09, 0x0d), (0x20, 0x20), (0x85, 0x85), (0xa0, 0xa0), (0x1680, 0x1680), (0x2000, 0x200a),
    (0x2028, 0x2029), (0x202f, 0x202f), (0x205f, 0x205f), (0x3000, 0x3000)]

/-- Whether a character has the property `White_Space`. -/
def isBlank (c : Char) : Bool :=
  blankRanges.covers c.toNat

/-- A text without the blanks at both ends. -/
def trim (cs : List Char) : List Char :=
  ((cs.dropWhile isBlank).reverse.dropWhile isBlank).reverse

theorem isBlank_of_isAsciiBlank {c : Char} (h : isAsciiBlank c = true) : isBlank c = true := by
  simp only [isAsciiBlank, Bool.or_eq_true, decide_eq_true_eq] at h
  rcases h with (((rfl | rfl) | rfl) | rfl) | rfl <;> rfl

example : blankRanges.Apart := by decide

/-- The property holds of twenty-five characters. -/
example : blankRanges.size = 25 := by decide

end MeterNode.Text
