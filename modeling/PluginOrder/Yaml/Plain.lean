import PluginOrder.Text.Blank
import PluginOrder.Yaml.Tag
import PluginOrder.Yaml.Timestamp

/-!
# What plain scalars look like

A plain scalar without a tag is a flag, a number, nothing, or a time stamp if it looks like one,
and a text otherwise.
-/

namespace PluginOrder.Yaml

/-- Whether a character may stand in a run of digits. -/
def isDigitOrLine (c : Char) : Bool := Text.isAsciiDigit c || c == '_'

/-- Whether a text is a run of digits, with underscores, that begins with a digit. -/
def isDigitRun : List Char → Bool
  | [] => false
  | c :: rest => Text.isAsciiDigit c && rest.all isDigitOrLine

/-- A text without its sign, if it has one. -/
def withoutSign : List Char → List Char
  | '-' :: rest => rest
  | '+' :: rest => rest
  | rest => rest

/-- Whether a text is a place below sixty in one or two digits. -/
def isPlace : List Char → Bool
  | [a] => Text.isAsciiDigit a
  | [a, b] => '0' ≤ a && a ≤ '5' && Text.isAsciiDigit b
  | _ => false

/-- Whether a text has places of sixty behind its first part, which has a property. -/
def hasPlaces (first : List Char → Bool) (s : List Char) : Bool :=
  match Text.splitOn ':' s with
  | head :: place :: places => first head && (place :: places).all isPlace
  | _ => false

/-- Whether a text looks like a whole number. -/
def isIntegerLike (s : List Char) : Bool :=
  match withoutSign s with
  | [] => false
  | ['0'] => true
  | '0' :: 'b' :: rest => !rest.isEmpty && rest.all fun c => c == '0' || c == '1' || c == '_'
  | '0' :: 'x' :: rest =>
    !rest.isEmpty && rest.all fun c =>
      isDigitOrLine c || ('a' ≤ c && c ≤ 'f') || ('A' ≤ c && c ≤ 'F')
  | '0' :: rest => rest.all fun c => ('0' ≤ c && c ≤ '7') || c == '_'
  | body => isDigitRun body || hasPlaces isDigitRun body

/-- Whether a text is an exponent with its sign, or nothing. -/
def isExponent : List Char → Bool
  | [] => true
  | e :: sign :: digits =>
    (e == 'e' || e == 'E') && (sign == '-' || sign == '+') && !digits.isEmpty &&
      digits.all Text.isAsciiDigit
  | _ => false

/-- Whether what stands behind a point is digits and perhaps an exponent. -/
def isFractionTail (s : List Char) : Bool := isExponent (s.dropWhile isDigitOrLine)

/-- Whether a text looks like a fraction. -/
def isDecimalLike (s : List Char) : Bool :=
  let body := withoutSign s
  match Text.cut '.' body with
  | (_, none) => false
  | ([], some tail) =>
    ["inf", "Inf", "INF"].contains (String.ofList tail) ||
      (s == body && (["nan", "NaN", "NAN"].contains (String.ofList tail) ||
        (tail.head?.any Text.isAsciiDigit && isFractionTail tail)))
  | (whole, some tail) =>
    (isDigitRun whole && isFractionTail tail) ||
      (hasPlaces isDigitRun whole && tail.all isDigitOrLine)

/-- The spellings of flags. -/
def flagSpellings : List String :=
  ["yes", "Yes", "YES", "no", "No", "NO", "true", "True", "TRUE", "false", "False", "FALSE", "on",
    "On", "ON", "off", "Off", "OFF"]

/-- The spellings of nothing. -/
def nullSpellings : List String := ["", "~", "null", "Null", "NULL"]

/-- The kind that a text suggests.  A line feed at its end is not looked at. -/
def Tag.suggestedBy (text : List Char) : Tag :=
  let s := match text.reverse with
    | '\n' :: rest => rest.reverse
    | _ => text
  let word := String.ofList s
  if flagSpellings.contains word then .flag
  else if isDecimalLike s then .decimal
  else if isIntegerLike s then .integer
  else if word = "<<" then .merge
  else if nullSpellings.contains word && (!s.isEmpty || text.isEmpty) then .null
  else if Timestamp.isPlain s then .timestamp
  else if word = "=" then .default
  else if word = "!" ∨ word = "&" ∨ word = "*" then .other
  else .text

end PluginOrder.Yaml
