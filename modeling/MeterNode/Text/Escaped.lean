import MeterNode.Text.Extender
import MeterNode.Text.Numeral
import MeterNode.Text.Unassigned

/-!
# Quoted text

Diagnostic lines show a text in quotes.  A quote and a backslash get a backslash in front, the
common control characters have short names, and any other character that does not print is
written as its number in hexadecimal.  A character prints if a reader of the line would see it, and
see it apart from the character before it.  The tables follow Unicode 17.0.
-/

namespace MeterNode.Text

/-- The controls, the general category `Cc`. -/
def controlRanges : CodeRanges :=
  [(0x00, 0x1f), (0x7f, 0x9f)]

/-- The characters that steer the layout of others, the general category `Cf`. -/
def formatRanges : CodeRanges :=
  [(0xad, 0xad), (0x600, 0x605), (0x61c, 0x61c), (0x6dd, 0x6dd), (0x70f, 0x70f), (0x890, 0x891),
    (0x8e2, 0x8e2), (0x180e, 0x180e), (0x200b, 0x200f), (0x202a, 0x202e), (0x2060, 0x2064),
    (0x2066, 0x206f), (0xfeff, 0xfeff), (0xfff9, 0xfffb), (0x110bd, 0x110bd), (0x110cd, 0x110cd),
    (0x13430, 0x1343f), (0x1bca0, 0x1bca3), (0x1d173, 0x1d17a), (0xe0001, 0xe0001),
    (0xe0020, 0xe007f)]

/-- The numbers for private use, the general category `Co`. -/
def privateRanges : CodeRanges :=
  [(0xe000, 0xf8ff), (0xf0000, 0xffffd), (0x100000, 0x10fffd)]

/-- Letters that stand for a missing one and show nothing.  No other letters have the property
`Default_Ignorable_Code_Point`. -/
def fillerRanges : CodeRanges :=
  [(0x115f, 0x1160), (0x3164, 0x3164), (0xffa0, 0xffa0)]

/-- The sound marks of half width.  They extend the character before them but take a place of their
own on the line. -/
def soundMarkRanges : CodeRanges :=
  [(0xff9e, 0xff9f)]

/-- Whether a character leaves no mark of its own on the line: a blank other than the space, a
control, a format character, a filler, or a number that has no common character. -/
def isInvisible (c : Char) : Bool :=
  (isBlank c && c != ' ') || isUnassigned c ||
    (controlRanges ++ formatRanges ++ privateRanges ++ fillerRanges).covers c.toNat

/-- Whether a character is drawn on the one before it. -/
def isOverlaid (c : Char) : Bool :=
  isExtender c && !soundMarkRanges.covers c.toNat

/-- Whether a character is shown as itself. -/
def isPrintable (c : Char) : Bool :=
  !isInvisible c && !isOverlaid c

/-- A character inside quotes. -/
def escapedChar (c : Char) : String :=
  if c = '"' then "\\\""
  else if c = '\\' then "\\\\"
  else if c = '\n' then "\\n"
  else if c = '\r' then "\\r"
  else if c = '\t' then "\\t"
  else if c = '\x00' then "\\0"
  else if isPrintable c then c.toString
  else "\\u\x7b" ++ hexText 0 c.toNat ++ "\x7d"

/-- A text in quotes. -/
def quoted (s : String) : String :=
  "\"" ++ String.join (s.toList.map escapedChar) ++ "\""

example : controlRanges.Apart ∧ formatRanges.Apart ∧ privateRanges.Apart ∧
    fillerRanges.Apart := by
  decide

example : controlRanges.size = 65 ∧ formatRanges.size = 170 ∧ privateRanges.size = 137468 ∧
    fillerRanges.size = 4 := by
  decide

/-- Both sound marks are extenders. -/
example : soundMarkRanges.all fun r => isExtender (.ofNat r.1) && isExtender (.ofNat r.2) := by
  decide +kernel

end MeterNode.Text
