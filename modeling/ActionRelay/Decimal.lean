/-!
# Decimal numbers

A number as it is written: a sign, digits, some of them behind a point, and
an exponent. Numbers are kept in double precision, and `Decimal.isFinite`
tells which of them have a finite double.

A double is made in two steps. The digits are first cut to a `Scaled`
number, whose significand fits into 64 bits; then the significand and the
power of ten are rounded to 53 bits each, and multiplied. Close to the
largest double it therefore depends on how a number is written whether it is
finite: a zero at the end of the fraction may matter.
-/

namespace ActionRelay

/-- The nearest number to `n` with at most `bits` significant bits; of two
equally near ones, the one whose last bit is zero. -/
def roundToBits (bits n : Nat) : Nat :=
  let unit := Nat.pow 2 (n.log2 + 1 - bits)
  let below := n / unit
  let rest := n % unit
  if 2 * rest < unit ∨ 2 * rest = unit ∧ below % 2 = 0 then below * unit
  else (below + 1) * unit

/-- Puts digits behind a number as long as it stays below `limit`: the number
then, and the digits left over. -/
def appendDigits (limit n : Nat) : List Nat → Nat × List Nat
  | [] => (n, [])
  | digit :: rest =>
    if n * 10 + digit < limit then appendDigits limit (n * 10 + digit) rest
    else (n, digit :: rest)

/-- The last `count` digits of a number, in front of further digits. -/
def lastDigits : (count n : Nat) → (behind : List Nat) → List Nat
  | 0, _, behind => behind
  | count + 1, n, behind => lastDigits count (n / 10) (n % 10 :: behind)

/-- The digits of a number without superfluous zeros. -/
def digitsOf (n : Nat) : List Nat :=
  (Nat.toDigits 10 n).map fun c => c.toNat - '0'.toNat

/-! ## Scaled numbers -/

/-- The number `significand * 10 ^ exponent`. -/
structure Scaled where
  significand : Nat
  exponent : Int
deriving DecidableEq

namespace Scaled

/-- Significands stay below this number. -/
def limit : Nat := Nat.pow 2 64

/-- The significant bits of a double. -/
def precision : Nat := 53

/-- The largest exponent of a power of ten that is finite. -/
def maxExponent : Nat := 308

/-- The least product that is rounded to infinity. -/
def overflow : Nat := Nat.pow 2 1024 - Nat.pow 2 970

/-- Whether the product of the significand and the power of ten, each rounded
to the precision of a double, is finite. A negative exponent divides. -/
def isFinite (s : Scaled) : Bool :=
  if s.significand = 0 ∨ s.exponent < 0 then true
  else if maxExponent < s.exponent.natAbs then false
  else
    roundToBits precision s.significand * roundToBits precision (Nat.pow 10 s.exponent.natAbs)
      < overflow

end Scaled

/-! ## Written numbers -/

/-- A number as it is written: the digits of `mantissa`, the last `places` of
them behind the point, times `10 ^ exponent`, negated if `negative`. -/
structure Decimal where
  negative : Bool
  mantissa : Nat
  places : Nat
  exponent : Int
deriving DecidableEq

namespace Decimal

/-- A number written as a plain row of digits. -/
def ofNat (n : Nat) : Decimal := ⟨false, n, 0, 0⟩

/-- The digits before the point. -/
def wholeDigits (d : Decimal) : List Nat :=
  digitsOf (d.mantissa / Nat.pow 10 d.places)

/-- The digits behind the point. -/
def fractionDigits (d : Decimal) : List Nat :=
  lastDigits d.places d.mantissa []

/-- The magnitude, cut to what fits into a significand. Each digit that is
cut off before the point raises the exponent, and each digit taken from
behind the point lowers it. -/
def scaled (d : Decimal) : Scaled :=
  let (whole, cut) := appendDigits Scaled.limit 0 d.wholeDigits
  let (significand, ignored) := appendDigits Scaled.limit whole d.fractionDigits
  { significand
    exponent := d.exponent + cut.length - (d.places - ignored.length : Nat) }

/-- Whether the number has a finite double. -/
def isFinite (d : Decimal) : Bool := d.scaled.isFinite

end Decimal

end ActionRelay
