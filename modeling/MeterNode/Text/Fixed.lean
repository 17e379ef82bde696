/-!
# Numbers with fixed places

A measured value is written with a fixed number of decimal places.  A finite binary value is
exactly `m · 2 ^ e`, so the digits come from whole-number arithmetic: scale by the power of ten,
divide by the power of two, round to the nearest whole number and put in the point.  A tie goes to
the even neighbour.  The sign stays even where all digits are zero.
-/

namespace MeterNode.Text

/-- The nearest whole number to `num / den`, the even one on a tie. -/
def roundDiv (num den : Nat) : Nat :=
  let q := num / den
  let twice := 2 * (num % den)
  if twice < den then q
  else if den < twice then q + 1
  else if q % 2 = 0 then q else q + 1

/-- A binary value taken apart. -/
inductive Binary where
  | nan
  | infinite (negative : Bool)
  /-- The value `mantissa · 2 ^ exponent`, negated if `negative`. -/
  | finite (negative : Bool) (mantissa : Nat) (exponent : Int)

/-- The number of fractions that a double can have. -/
def fractions : Nat := Nat.pow 2 52

/-- Take a double apart: 52 fraction bits, 11 exponent bits, a sign. -/
def Binary.ofBits (bits : UInt64) : Binary :=
  let n := bits.toNat
  let fraction : Nat := n % fractions
  let biased : Nat := n / fractions % 2048
  let negative : Bool := n / fractions / 2048 == 1
  if biased = 2047 then if fraction = 0 then .infinite negative else .nan
  else if biased = 0 then .finite negative fraction (-1074)
  else .finite negative (fractions + fraction) ((biased : Int) - 1075)

/-- The nearest whole number of units `10 ^ (-places)` in `m · 2 ^ e`. -/
def scaled (places m : Nat) (e : Int) : Nat :=
  let units := m * Nat.pow 10 places
  if 0 ≤ e then units * Nat.pow 2 e.toNat else roundDiv units (Nat.pow 2 (-e).toNat)

/-- A count of units `10 ^ (-places)` with its point. -/
def pointed (places units : Nat) : String :=
  let digits := (Nat.repr units).toList
  let padded := List.replicate (places + 1 - digits.length) '0' ++ digits
  let whole := String.ofList (padded.take (padded.length - places))
  if places = 0 then whole
  else whole ++ "." ++ String.ofList (padded.drop (padded.length - places))

/-- A binary value with fixed places. -/
def Binary.fixed (places : Nat) : Binary → String
  | .nan => "NaN"
  | .infinite negative => if negative then "-inf" else "inf"
  | .finite negative m e => (if negative then "-" else "") ++ pointed places (scaled places m e)

/-- A double with fixed places. -/
def fixed (places : Nat) (x : Float) : String := (Binary.ofBits x.toBits).fixed places

/-- A whole number with at least two digits. -/
def twoDigits (n : Nat) : String := if n < 10 then "0" ++ Nat.repr n else Nat.repr n

/-- Ties go to the even neighbour. -/
example : roundDiv 5 2 = 2 ∧ roundDiv 7 2 = 4 ∧ roundDiv 8 3 = 3 := by decide

end MeterNode.Text
