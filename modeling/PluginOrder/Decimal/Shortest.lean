import PluginOrder.Decimal.Binary64

/-!
# The shortest decimal that reads back

The digits of a double are the fewest decimal digits whose value rounds to it.  The reals that
round to `m · 2^q` form an interval, whose ends belong to it if `m` is even.  For one digit, two
digits, and so on, the two neighbours of the value on that decimal grid are tested: the first
grid with a neighbour in the interval decides, and of two neighbours the nearer one is taken.
Seventeen digits always suffice.
-/

namespace PluginOrder.Binary64

/-- The value `digits · 10 ^ exponent`. -/
structure Decimal where
  digits : Nat
  exponent : Int
  deriving DecidableEq, Repr

/-- The interval of reals that round to a double, over a common denominator. -/
structure RoundingInterval where
  low : Nat
  value : Nat
  high : Nat
  denominator : Nat
  /-- Whether the ends round to the double too. -/
  closed : Bool

namespace RoundingInterval

/-- The rounding interval of a magnitude, in quarters of a unit in the last place.  Below a power
of two the next double is only half as far away. -/
def of (x : Magnitude) : RoundingInterval :=
  let narrow := x.mantissa = Nat.pow 2 52 ∧ x.exponent > -1074
  let scale := Nat.pow 2 (x.exponent - 2).toNat
  { low := (4 * x.mantissa - if narrow then 1 else 2) * scale
    value := 4 * x.mantissa * scale
    high := (4 * x.mantissa + 2) * scale
    denominator := Nat.pow 2 (2 - x.exponent).toNat
    closed := x.mantissa % 2 = 0 }

/-- Whether `numerator / denominator · 10 ^ exponent` lies in the interval. -/
def contains (i : RoundingInterval) (digits : Nat) (exponent : Int) : Bool :=
  let point := digits * Nat.pow 10 exponent.toNat * i.denominator
  let low := i.low * Nat.pow 10 (-exponent).toNat
  let high := i.high * Nat.pow 10 (-exponent).toNat
  if i.closed then low ≤ point && point ≤ high else low < point && point < high

/-- The number of decimal places before the point: the least power of ten above the value. -/
def decimalPoint (i : RoundingInterval) : Int :=
  let above (point : Int) : Bool :=
    i.value * Nat.pow 10 (-point).toNat < Nat.pow 10 point.toNat * i.denominator
  let estimate : Int := ((i.value.log2 : Int) - i.denominator.log2) * 1233 / 4096
  if above (estimate - 1) then estimate - 1
  else if above estimate then estimate
  else if above (estimate + 1) then estimate + 1
  else estimate + 2

/-- The neighbour of the value, among the multiples of a power of ten, that rounds to the double;
of two the nearer one, and of two equally near the even one. -/
def onGrid? (i : RoundingInterval) (exponent : Int) : Option Decimal :=
  let numerator := i.value * Nat.pow 10 (-exponent).toNat
  let denominator := i.denominator * Nat.pow 10 exponent.toNat
  let below := numerator / denominator
  let twice := 2 * (numerator % denominator)
  let preferAbove := twice > denominator || (twice == denominator && below % 2 == 1)
  match i.contains below exponent, i.contains (below + 1) exponent with
  | true, true => some ⟨if preferAbove then below + 1 else below, exponent⟩
  | true, false => some ⟨below, exponent⟩
  | false, true => some ⟨below + 1, exponent⟩
  | false, false => none

/-- The first hit, going to finer grids; at most the given number of grids is tried. -/
def search (i : RoundingInterval) (exponent : Int) : Nat → Decimal
  | 0 => ⟨0, exponent⟩
  | turns + 1 => (i.onGrid? exponent).getD (i.search (exponent - 1) turns)

end RoundingInterval

/-- The shortest decimal of a magnitude that is not zero. -/
def shortest (x : Magnitude) : Decimal :=
  let interval := RoundingInterval.of x
  interval.search (interval.decimalPoint - 1) 18

end PluginOrder.Binary64
