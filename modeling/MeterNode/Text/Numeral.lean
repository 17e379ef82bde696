import MeterNode.Text.Utf8

/-!
# Numerals

A decimal numeral is an optional sign and at least one decimal digit, and nothing else.  An unsigned
numeral takes a plus only.  A value above the limit of its field is no numeral of that field, and
zeros in front do not matter.

Numbers and bytes are shown in hexadecimal with lower-case digits.
-/

namespace MeterNode.Text

/-! ## Decimal -/

/-- The value of a decimal digit. -/
def digit? (c : Char) : Option Nat :=
  if '0' ≤ c ∧ c ≤ '9' then some (c.toNat - '0'.toNat) else none

/-- The value of a non-empty run of digits. -/
def digits? : List Char → Option Nat
  | [] => none
  | cs => cs.foldl (fun value c => do return 10 * (← value) + (← digit? c)) (some 0)

/-- A text without one sign `plus` in front. -/
def dropPlus : List Char → List Char
  | '+' :: r => r
  | cs => cs

/-- An unsigned numeral of at most `limit`. -/
def natural? (limit : Nat) (cs : List Char) : Option Nat :=
  (digits? (dropPlus cs)).filter (· ≤ limit)

/-- A signed numeral in a field of `bits` bits. -/
def integer? (bits : Nat) (cs : List Char) : Option Int :=
  match cs with
  | '-' :: r => (digits? r).filter (· ≤ Nat.pow 2 (bits - 1)) |>.map fun n => -(n : Int)
  | _ => (digits? (dropPlus cs)).filter (· < Nat.pow 2 (bits - 1)) |>.map fun n => (n : Int)

example : natural? 999 ['+', '2', '0'] = some 20 := by decide
example : natural? 65535 ['-', '1'] = none := by decide
example : integer? 32 ['-', '1', '2', '0'] = some (-120) := by decide
example : integer? 8 ['-', '1', '2', '8'] = some (-128) := by decide
example : integer? 8 ['1', '2', '8'] = none := by decide

/-! ## Hexadecimal -/

/-- The hexadecimal digits of a number, with zeros in front up to a width. -/
def hexText (width n : Nat) : String :=
  let digits := Nat.toDigits 16 n
  String.ofList (List.replicate (width - digits.length) '0' ++ digits)

/-- The value of a hexadecimal digit, in either case. -/
def hexDigit (c : Char) : Nat := if c.isDigit then c.toNat - 48 else c.toLower.toNat - 87

/-- The number some hexadecimal digits stand for. -/
def hexValue (cs : List Char) : Nat := cs.foldl (fun n c => n * 16 + hexDigit c) 0

/-- The bytes that pairs of hexadecimal digits stand for. -/
def hexBytes : List Char → Bytes
  | a :: b :: rest => (hexValue [a, b]).toUInt8 :: hexBytes rest
  | _ => []

/-- Bytes as pairs of hexadecimal digits. -/
def bytesText (bytes : Bytes) : String := String.join (bytes.map fun b => hexText 2 b.toNat)

example : hexBytes ['0', '0', 'f', 'F'] = [0, 255] := by decide

end MeterNode.Text
