import KeyApproval.Decimal.Rounding
import KeyApproval.Text.Number

/-!
# Floating-point numbers

The numbers of binary64, as a sign, a significand and a power of two. Decimals are rounded to them
exactly, and written with the fewest digits that are read back as the same number.
-/

namespace KeyApproval.Decimal

inductive Binary64 where
  | nan
  | infinite (negative : Bool)
  /-- The significand times a power of two; below the 53rd power of two, and at the least exponent or
  with its top bit set. -/
  | finite (negative : Bool) (significand : Nat) (exponent : Int)
  deriving DecidableEq

namespace Binary64

def leastExponent : Int := -1074

/-- The greatest power of two that is not above the quotient. -/
def floorLog2 (numerator denominator : Nat) : Int :=
  let guess : Int := bitLength numerator - bitLength denominator
  let reached :=
    if 0 ≤ guess then denominator * twoTo guess.toNat ≤ numerator
    else denominator ≤ numerator * twoTo (-guess).toNat
  if reached then guess else guess - 1

/-- The quotient rounded to 53 significant bits, or fewer near zero. -/
def ofQuotient (negative : Bool) (numerator denominator : Nat) : Binary64 :=
  if numerator = 0 then finite negative 0 leastExponent
  else
    let exponent := max leastExponent (floorLog2 numerator denominator - 52)
    let significand :=
      if 0 ≤ exponent then roundQuotient numerator (denominator * twoTo exponent.toNat)
      else roundQuotient (numerator * twoTo (-exponent).toNat) denominator
    let (significand, exponent) :=
      if significand = twoTo 53 then (twoTo 52, exponent + 1) else (significand, exponent)
    if 971 < exponent then infinite negative else finite negative significand exponent

/-- The decimal with these digits times a power of ten. -/
def ofDecimal (negative : Bool) (digits : List Nat) (power : Int) : Binary64 :=
  let n := Text.digitsValue 10 digits
  if n = 0 then finite negative 0 leastExponent
  else
    let size := (toString n).length + power
    if 400 < size then infinite negative
    else if size < -400 then finite negative 0 leastExponent
    else if 0 ≤ power then ofQuotient negative (n * tenTo power.toNat) 1
    else ofQuotient negative n (tenTo (-power).toNat)

/-! ### Shortest digits

The numbers that round to a float form an interval, whose ends belong to it when the significand is
even. All of them are counted in quarters of the last bit. -/

structure Interval where
  /-- The float itself and the ends of its interval, as multiples of a quarter of the last bit. -/
  value : Nat
  low : Nat
  high : Nat
  closed : Bool
  /-- The power of two of the quarter. -/
  exponent : Int

def interval (significand : Nat) (exponent : Int) : Interval :=
  let narrow := significand = twoTo 52 ∧ exponent ≠ leastExponent
  ⟨4 * significand, 4 * significand - (if narrow then 1 else 2), 4 * significand + 2,
    significand % 2 = 0, exponent - 2⟩

/-- The numerator and denominator of a count of quarters, in units of a power of ten. -/
def inUnits (count : Nat) (exponent unit : Int) : Nat × Nat :=
  let (n, d) := if 0 ≤ exponent then (count * twoTo exponent.toNat, 1)
    else (count, twoTo (-exponent).toNat)
  if 0 ≤ unit then (n, d * tenTo unit.toNat) else (n * tenTo (-unit).toNat, d)

/-- Whether a number of units lies in the interval. -/
def Interval.contains (i : Interval) (unit : Int) (n : Nat) : Bool :=
  let (low, d) := inUnits i.low i.exponent unit
  let (high, _) := inUnits i.high i.exponent unit
  if i.closed then low ≤ n * d && n * d ≤ high else low < n * d && n * d < high

/-- The number of units nearest to the float among its two neighbours that lie in the interval. -/
def Interval.nearest? (i : Interval) (unit : Int) : Option Nat :=
  let (v, d) := inUnits i.value i.exponent unit
  let below := v / d
  let nearer := roundQuotient v d
  let other := if nearer = below then below + 1 else below
  if nearer ≠ 0 && i.contains unit nearer then some nearer
  else if other ≠ 0 && i.contains unit other then some other
  else none

/-- The first power of ten above the float. -/
def magnitude (i : Interval) : Int :=
  let (v, d) := inUnits i.value i.exponent 0
  if d ≤ v then (toString (v / d)).length
  else
    Int.negOfNat (((List.range 400).find? fun k => d ≤ v * tenTo (k + 1)).getD 400)

/-- The fewest digits that are read back as the float, and the power of ten of the last one. -/
def shortest (significand : Nat) (exponent : Int) : Nat × Int :=
  let i := interval significand exponent
  let top := magnitude i
  let tries := (List.range 17).filterMap fun k =>
    let unit := top - (k + 1 : Nat)
    (i.nearest? unit).map fun n => (n, unit)
  tries.headD (significand, exponent)

/-- Positional text with a point. -/
def positional (digits : Nat) (power : Int) : String :=
  if 0 ≤ power then toString (digits * tenTo power.toNat) ++ ".0"
  else
    let places := (-power).toNat
    let whole := digits / tenTo places
    let fraction := Text.padLeft places (digits % tenTo places)
    let trimmed := String.ofList (fraction.toList.reverse.dropWhile (· == '0')).reverse
    toString whole ++ "." ++ (if trimmed == "" then "0" else trimmed)

/-- Positional text with the fewest digits; whole numbers end in a point and a zero. -/
def text : Binary64 → String
  | nan => "nan"
  | infinite negative => if negative then "-inf" else "inf"
  | finite negative significand exponent =>
    let unsigned :=
      if significand = 0 then "0.0"
      else
        let (digits, power) := shortest significand exponent
        positional digits power
    if negative then "-" ++ unsigned else unsigned

end Binary64

end KeyApproval.Decimal
