/-!
# Doubles as exact fractions

A finite double is `m · 2^q` with a mantissa of at most 53 bits.  This file reads those parts off
the bits of a `Float` and goes back: `ofFraction` is the double nearest to a quotient of natural
numbers, a tie going to the even mantissa, and infinity from half a unit above the largest
double on.
-/

namespace PluginOrder.Binary64

/-- The size of a finite double, as `mantissa · 2 ^ exponent`. -/
structure Magnitude where
  mantissa : Nat
  exponent : Int
  deriving DecidableEq, Repr

/-- Whether the sign bit is set. -/
def isNegative (x : Float) : Bool := x.toBits.toNat / Nat.pow 2 63 == 1

/-- The biased exponent field. -/
def exponentField (x : Float) : Nat := x.toBits.toNat / Nat.pow 2 52 % Nat.pow 2 11

/-- The fraction field. -/
def fractionField (x : Float) : Nat := x.toBits.toNat % Nat.pow 2 52

/-- The size of a double that is finite. -/
def magnitude? (x : Float) : Option Magnitude :=
  if exponentField x = 2047 then none
  else if exponentField x = 0 then some ⟨fractionField x, -1074⟩
  else some ⟨fractionField x + Nat.pow 2 52, exponentField x - 1075⟩

/-- The nonnegative double with the given fields. -/
def ofFields (exponent fraction : Nat) : Float :=
  Float.ofBits (UInt64.ofNat (exponent * Nat.pow 2 52 + fraction))

/-- The quotient rounded to the nearest natural number, a tie going to the even one. -/
def roundDiv (numerator denominator : Nat) : Nat :=
  let q := numerator / denominator
  let twice := 2 * (numerator % denominator)
  if twice > denominator ∨ (twice = denominator ∧ q % 2 = 1) then q + 1 else q

/-- The quotient of two natural numbers, scaled by a power of two and rounded. -/
def scaledRound (numerator denominator : Nat) (exponent : Int) : Nat :=
  roundDiv (numerator * Nat.pow 2 (-exponent).toNat) (denominator * Nat.pow 2 exponent.toNat)

/-- The double nearest to a fraction whose denominator is not zero. -/
def ofFraction (numerator denominator : Nat) : Float :=
  if numerator = 0 then ofFields 0 0
  else
    -- The exponent of the unit in the last place, at first one too small or right.
    let guess : Int := (numerator.log2 : Int) - denominator.log2 - 53
    let exponent := max (-1074) guess
    let m := scaledRound numerator denominator exponent
    -- At most one step is missing, and the rounding may carry into the next binade.
    let (m, exponent) :=
      if m < Nat.pow 2 53 then (m, exponent)
      else (scaledRound numerator denominator (exponent + 1), exponent + 1)
    let (m, exponent) := if m = Nat.pow 2 53 then (Nat.pow 2 52, exponent + 1) else (m, exponent)
    if m < Nat.pow 2 52 then ofFields 0 m
    else if exponent + 1075 ≥ 2047 then ofFields 2047 0
    else ofFields (exponent + 1075).toNat (m - Nat.pow 2 52)

/-- The double nearest to `digits · 10 ^ exponent`. -/
def ofDecimal (digits : Nat) (exponent : Int) : Float :=
  if digits = 0 then ofFields 0 0
  else
    -- Beyond these bounds the answer is infinity or zero, whatever the digits are.
    let magnitude : Int := (Nat.toDigits 10 digits).length + exponent
    if magnitude > 400 then ofFields 2047 0
    else if magnitude < -400 then ofFields 0 0
    else ofFraction (digits * Nat.pow 10 exponent.toNat) (Nat.pow 10 (-exponent).toNat)

end PluginOrder.Binary64
