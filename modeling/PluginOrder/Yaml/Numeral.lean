import PluginOrder.Decimal.Binary64
import PluginOrder.Text.Blank
import PluginOrder.Text.Case
import PluginOrder.Yaml.Fault

/-!
# Numbers in YAML

Whole numbers are binary, octal, decimal or hexadecimal, or have places of sixty each, with colons
between them.  Fractions are decimal or have places of sixty too.  Underscores may stand anywhere
and count for nothing.

What looks like a number is decided elsewhere; here a text that is marked as a number is read, with
its fault if it is none.
-/

namespace PluginOrder.Yaml

/-! ### Numerals -/

open Text

/-- Whether a code point may stand around a number: a blank that is no information separator. -/
def isNumberBlank : CodePoint → Bool
  | .char c => isBlank c && !('\x1c' ≤ c && c ≤ '\x1f')
  | .half _ => false

/-- A number without the blanks around it. -/
def trimNumber (s : List CodePoint) : List CodePoint :=
  ((s.dropWhile isNumberBlank).reverse.dropWhile isNumberBlank).reverse

/-- The value of a digit in some base: a decimal digit of any script, or an ASCII letter. -/
def digitOf? : CodePoint → Option Nat
  | .char c =>
    match digitValue? c with
    | some value => some value
    | none =>
      if 'a' ≤ c ∧ c ≤ 'z' then some (c.toNat - 87)
      else if 'A' ≤ c ∧ c ≤ 'Z' then some (c.toNat - 55)
      else none
  | .half _ => none

/-- The letter that may stand behind a zero in front of a numeral. -/
def baseLetter? (base : Nat) : Option Char :=
  if base = 2 then some 'b' else if base = 8 then some 'o' else if base = 16 then some 'x' else none

/-- A numeral without the mark of its base. -/
def dropBaseMark (base : Nat) : List CodePoint → List CodePoint
  | .char '0' :: .char letter :: rest =>
    if (baseLetter? base).any (· == letter.toLower) then rest
    else .char '0' :: .char letter :: rest
  | s => s

/-- Whether a text begins with a minus sign, and the text without its sign. -/
def takeSign : List CodePoint → Bool × List CodePoint
  | .char '-' :: rest => (true, rest)
  | .char '+' :: rest => (false, rest)
  | rest => (false, rest)

/-- A number with its sign. -/
def signed (negative : Bool) (n : Int) : Int := if negative then -n else n

/-- Reads a numeral, which may have a sign and blanks around it. -/
def readNumeral (base : Nat) (s : List CodePoint) : Except Fault Int :=
  let (negative, body) := takeSign (trimNumber s)
  let digits := (dropBaseMark base body).map fun c => (digitOf? c).filter (· < base)
  let run := digits.takeWhile Option.isSome
  if base = 10 ∧ run.length > maxDigits then .error (.oversizedNumeral run.length)
  else if run.isEmpty ∨ run.length < digits.length then .error (.notNumeral base s)
  else .ok (signed negative (numberOfDigits base (run.filterMap id)))

/-- The number whose places are given, the greatest first, each sixty times the next one. -/
def sexagesimal (places : List Int) : Int := places.foldl (fun n place => n * 60 + place) 0

/-- A text without underscores. -/
def withoutLines (s : List CodePoint) : List CodePoint := s.filter (· != .char '_')

/-- Reads a text that is marked as a whole number. -/
def readInteger (s : List CodePoint) : Except Fault Int :=
  let (negative, body) := takeSign (withoutLines s)
  match body with
  | [] => .error .emptyNumber
  | [.char '0'] => .ok 0
  | .char '0' :: .char 'b' :: rest => (readNumeral 2 rest).map (signed negative)
  | .char '0' :: .char 'x' :: rest => (readNumeral 16 rest).map (signed negative)
  | .char '0' :: _ => (readNumeral 8 body).map (signed negative)
  | _ =>
    if body.contains (.char ':') then do
      let places ← (splitOn (.char ':') body).mapM (readNumeral 10)
      .ok (signed negative (sexagesimal places))
    else (readNumeral 10 body).map (signed negative)

/-! ### Fractions -/

/-- Reads an exponent behind its mark, or its absence. -/
def readExponent? : List Char → Option Int
  | [] => some 0
  | e :: rest =>
    if e = 'e' ∨ e = 'E' then
      let (negative, digits) := match rest with
        | '-' :: rest => (true, rest)
        | '+' :: rest => (false, rest)
        | rest => (false, rest)
      if digits.isEmpty || !digits.all isDigit then none
      else some (signed negative (numberOfDigits 10 (digits.filterMap digitValue?)))
    else none

/-- Reads a decimal fraction without a sign, which may have an exponent. -/
def readUnsignedDecimal? (s : List Char) : Option Float :=
  let whole := s.takeWhile isDigit
  let (fraction, rest) := match s.dropWhile isDigit with
    | '.' :: rest => (rest.takeWhile isDigit, rest.dropWhile isDigit)
    | rest => ([], rest)
  if whole.isEmpty && fraction.isEmpty then none
  else (readExponent? rest).map fun exponent =>
    Binary64.ofDecimal (numberOfDigits 10 ((whole ++ fraction).filterMap digitValue?))
      (exponent - fraction.length)

/-- The words that are decimal fractions. -/
def decimalWords : List (String × Float) :=
  [("inf", 1.0 / 0.0), ("infinity", 1.0 / 0.0), ("nan", 0.0 / 0.0)]

/-- Reads a decimal fraction, which may have a sign and blanks around it. -/
def readDecimal (s : List CodePoint) : Except Fault Float :=
  let (negative, body) := takeSign (trimNumber s)
  let size? := (CodePoint.chars? body).bind fun chars =>
    match decimalWords.lookup (String.ofList (lowerAscii chars)) with
    | some x => some x
    | none => readUnsignedDecimal? chars
  match size? with
  | some x => .ok (if negative then -x else x)
  | none => .error (.notDecimal s)

/-- Whether a double is infinite. -/
def isInfinite (x : Float) : Bool := x == 1.0 / 0.0 || x == -1.0 / 0.0

/-- The sum of places of sixty each, the least first; `unit` is what the first one counts. -/
def sumPlaces (sum : Float) (unit : Nat) : List Float → Except Fault Float
  | [] => .ok sum
  | place :: rest =>
    let size := Binary64.ofFraction unit 1
    if isInfinite size then .error .oversizedPlace
    else sumPlaces (sum + place * size) (unit * 60) rest

/-- The body of a fraction as it counts: without underscores and sign, in small letters. -/
def fractionBody (s : List CodePoint) : Bool × List CodePoint :=
  takeSign (CodePoint.lower (withoutLines s))

/-- The spelling of the fraction that is no number. -/
def notANumber : List CodePoint := CodePoint.ofChars ".nan".toList

/-- The spelling of the infinite fraction. -/
def infinity : List CodePoint := CodePoint.ofChars ".inf".toList

/-- Reads a text that is marked as a fraction. -/
def readFraction (s : List CodePoint) : Except Fault Float :=
  if (withoutLines s).isEmpty then .error .emptyNumber
  else
    let (negative, body) := fractionBody s
    let size :=
      if body = infinity then .ok (1.0 / 0.0)
      else if body = notANumber then .ok (0.0 / 0.0)
      else if body.contains (.char ':') then do
        let places ← (splitOn (.char ':') body).mapM readDecimal
        sumPlaces 0.0 1 places.reverse
      else readDecimal body
    size.map fun x => if negative then -x else x

end PluginOrder.Yaml
