/-! # Shortest decimals

The text of a binary floating-point number is the decimal with the fewest digits that
still reads back as that number. All arithmetic is exact, on natural numbers. Very large and
very small numbers are written with an exponent.
-/
namespace KeyMatrix

/-- The decimal `digits * 10 ^ exponent`. -/
structure Decimal where
  digits : Nat
  exponent : Int
  deriving DecidableEq, Repr

/-- A finite magnitude `mantissa * 2 ^ exponent`, with its neighbourhood. -/
structure Dyadic where
  mantissa : Nat
  exponent : Int
  /-- The gap to the next smaller magnitude is half the gap to the next larger one. -/
  narrowBelow : Bool
  deriving DecidableEq, Repr

namespace Dyadic

/-- The magnitude that the bits of a finite double stand for. -/
def ofBits (bits : UInt64) : Dyadic :=
  let biased := ((bits >>> 52) &&& 0x7FF).toNat
  let fraction := (bits &&& 0xFFFFFFFFFFFFF).toNat
  if biased = 0 then { mantissa := fraction, exponent := -1074, narrowBelow := false }
  else {
    mantissa := 0x10000000000000 + fraction
    exponent := (biased : Int) - 1075
    narrowBelow := fraction = 0 && 1 < biased }

/-- The exact value as a decimal. -/
def exact (value : Dyadic) : Decimal where
  digits := value.mantissa * Nat.pow 2 value.exponent.toNat * Nat.pow 5 (-value.exponent).toNat
  exponent := min value.exponent 0

/-- The better of the two neighbours of the value on the grid of multiples of
`10 ^ exponent`, if one of them rounds to the value. A neighbour rounds to the value when it
lies between the midpoints to the adjacent magnitudes; the midpoints themselves count for an
even mantissa. Of two such neighbours the nearer is taken, the even one on a tie. -/
def onGrid? (value : Dyadic) (exponent : Int) : Option Decimal :=
  -- In units of a quarter of the last place, scaled so that the grid has step `step`.
  let scale := Nat.pow 2 (value.exponent - 2).toNat * Nat.pow 10 (-exponent).toNat
  let step := Nat.pow 2 (2 - value.exponent).toNat * Nat.pow 10 exponent.toNat
  let middle := 4 * value.mantissa * scale
  let low := (4 * value.mantissa - if value.narrowBelow then 1 else 2) * scale
  let high := (4 * value.mantissa + 2) * scale
  let readsBack (digits : Nat) : Bool :=
    if value.mantissa % 2 = 0 then low ≤ digits * step && digits * step ≤ high
    else low < digits * step && digits * step < high
  let below := middle / step
  let above := below + 1
  let midpoint := (below + above) * step
  let belowFirst := 2 * middle < midpoint || 2 * middle = midpoint && below % 2 = 0
  if readsBack below && (!readsBack above || belowFirst) then some ⟨below, exponent⟩
  else if readsBack above then some ⟨above, exponent⟩
  else none

/-- The largest exponent of ten at which a double can have a digit. -/
def topExponent : Nat := 308

/-- How many exponents of ten there are at which a double can have a leading or last
significant digit. -/
def exponentCount : Nat := 633

/-- The shortest decimal that reads back as the value: the one on the coarsest grid. -/
def shortest (value : Dyadic) : Decimal :=
  let grids := (List.range exponentCount).map fun (i : Nat) => (topExponent : Int) - i
  (grids.findSome? value.onGrid?).getD value.exact

end Dyadic

namespace Decimal

/-- The digits written out in full, with a point and at least one digit after it. -/
def positional (decimal : Decimal) : String :=
  match decimal.exponent with
  | .ofNat zeros =>
    let digits := Nat.toDigits 10 decimal.digits
    let padding := if decimal.digits = 0 then 0 else zeros
    String.ofList (digits ++ List.replicate padding '0' ++ ['.', '0'])
  | .negSucc k =>
    let places := k + 1
    let digits := Nat.toDigits 10 decimal.digits
    let padded := List.replicate (places + 1 - digits.length) '0' ++ digits
    let whole := padded.length - places
    String.ofList (padded.take whole ++ ['.'] ++ padded.drop whole)

/-- The exponent of ten at the first digit. -/
def magnitude (decimal : Decimal) : Int :=
  decimal.exponent + (Nat.toDigits 10 decimal.digits).length - 1

/-- The first digit, the others after a point, and the exponent of ten with its sign. -/
def scientific (decimal : Decimal) : String :=
  let digits := Nat.toDigits 10 decimal.digits
  let fraction := if digits.length = 1 then [] else '.' :: digits.drop 1
  let sign := if decimal.magnitude < 0 then '-' else '+'
  let exponent := Nat.toDigits 10 decimal.magnitude.natAbs
  String.ofList (digits.take 1 ++ fraction ++ 'e' :: sign :: exponent)

/-- The smallest magnitude that is written out in full. -/
def leastPositional : Int := -5

/-- The largest magnitude that is written out in full. -/
def mostPositional : Int := 15

/-- The digits in full for a moderate magnitude, with an exponent for any other. -/
def text (decimal : Decimal) : String :=
  if leastPositional ≤ decimal.magnitude ∧ decimal.magnitude ≤ mostPositional then
    decimal.positional
  else decimal.scientific

/-- The text of a finite double, with a sign also for negative zero. -/
def textOfFloat (value : Float) : String :=
  let bits := value.toBits
  let dyadic := Dyadic.ofBits bits
  let decimal := if dyadic.mantissa = 0 then ⟨0, 0⟩ else dyadic.shortest
  (if bits >>> 63 = 1 then "-" else "") ++ decimal.text

example : textOfFloat 5.5 = "5.5" := by decide +kernel
example : textOfFloat (-0.0) = "-0.0" := by decide +kernel
example : textOfFloat 100.0 = "100.0" := by decide +kernel
example : textOfFloat 1e15 = "1000000000000000.0" := by decide +kernel
example : textOfFloat 1e16 = "1e+16" := by decide +kernel
example : textOfFloat 0.00001 = "0.00001" := by decide +kernel
example : textOfFloat 2.98023223876953125e-8 = "2.9802322387695312e-8" := by decide +kernel

end Decimal
end KeyMatrix
