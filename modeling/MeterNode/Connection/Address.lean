import MeterNode.Text.Numeral
import MeterNode.Text.Split

/-!
# Network addresses

An address of the internet protocol, version 4, is four numbers up to 255.  Its text is the four
numbers in decimal with points between them.  Reading is strict: exactly four numbers, at most
three digits each, no signs and no zero in front of another digit.
-/

namespace MeterNode

open MeterNode.Text

/-- An address of four bytes. -/
structure Address where
  a : UInt8
  b : UInt8
  c : UInt8
  d : UInt8
deriving DecidableEq

namespace Address

/-- The text of an address. -/
def text (x : Address) : String :=
  toString x.a ++ "." ++ toString x.b ++ "." ++ toString x.c ++ "." ++ toString x.d

/-- One number of an address. -/
def part? (cs : List Char) : Option UInt8 :=
  if cs.length ≤ 3 ∧ (cs.length = 1 ∨ cs.head? ≠ some '0') then
    ((digits? cs).filter (· ≤ 255)).map Nat.toUInt8
  else none

/-- The address of a text. -/
def ofText? (s : String) : Option Address :=
  match (pieces '.' s.toList).map part? with
  | [some a, some b, some c, some d] => some ⟨a, b, c, d⟩
  | _ => none

end Address

end MeterNode
