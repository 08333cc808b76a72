import PluginOrder.Decimal.Shortest

/-!
# The text of a double

The shortest digits of a double are laid out positionally or scientifically.  `FloatLayout` holds
the choices, and `documentFloat` is the one value of it that this library writes.
-/

namespace PluginOrder

/-- How the digits of a double are laid out. -/
structure FloatLayout where
  /-- Values from `10 ^ leastPositional` on are written positionally. -/
  leastPositional : Int
  /-- Values from `10 ^ leastScientific` on are written scientifically. -/
  leastScientific : Int
  /-- The fewest digits of an exponent. -/
  exponentDigits : Nat
  infinity : String
  notANumber : String

/-- Floats of documents: positional from 10^-4 up to 10^16, always with a fraction then, and
otherwise an exponent with its sign and at least two digits. -/
def documentFloat : FloatLayout where
  leastPositional := -4
  leastScientific := 16
  exponentDigits := 2
  infinity := "inf"
  notANumber := "nan"

namespace FloatLayout

/-- The digits laid out, for a value whose digits are `ds` and whose point stands after `point`
of them. -/
def digits (layout : FloatLayout) (ds : List Char) (point : Int) : List Char :=
  let exponent := point - 1
  if layout.leastPositional ≤ exponent ∧ exponent < layout.leastScientific then
    if point ≤ 0 then '0' :: '.' :: List.replicate (-point).toNat '0' ++ ds
    else
      let count := point.toNat
      let whole := ds.take count ++ List.replicate (count - ds.length) '0'
      let fraction := ds.drop count
      whole ++ '.' :: if fraction.isEmpty then ['0'] else fraction
  else
    let size := Nat.toDigits 10 exponent.natAbs
    let padded := List.replicate (layout.exponentDigits - size.length) '0' ++ size
    let lead := match ds with
      | d :: e :: rest => d :: '.' :: e :: rest
      | ds => ds
    lead ++ 'e' :: (if exponent < 0 then '-' else '+') :: padded

/-- The text of a double. -/
def render (layout : FloatLayout) (x : Float) : String :=
  match Binary64.magnitude? x with
  | none =>
    if Binary64.fractionField x ≠ 0 then layout.notANumber
    else if Binary64.isNegative x then "-" ++ layout.infinity
    else layout.infinity
  | some size =>
    let body :=
      if size.mantissa = 0 then layout.digits ['0'] 1
      else
        let shortest := Binary64.shortest size
        let ds := Nat.toDigits 10 shortest.digits
        layout.digits (ds.reverse.dropWhile (· == '0')).reverse (ds.length + shortest.exponent)
    String.ofList (if Binary64.isNegative x then '-' :: body else body)

end FloatLayout

end PluginOrder
