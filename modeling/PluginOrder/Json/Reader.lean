import PluginOrder.Value
import PluginOrder.Decimal.Binary64

/-!
# Reading JSON

The reader takes the characters of a text from the front, so what is left says where it stands,
and a fault carries the rest of the text that begins at the offending character.

Beyond the standard, `NaN`, `Infinity` and `-Infinity` are numbers.  Of two members with the same
name the later value counts, at the place of the earlier one.  A number with a fraction or an
exponent is a double, any other number whole and of any size up to `Text.maxDigits` digits.
-/

namespace PluginOrder.Json

open Text

/-- What is wrong with a text. -/
inductive FaultKind where
  | expectingValue
  | extraData
  | expectingName
  | expectingColon
  | expectingComma
  | unterminatedString
  | controlCharacter
  | invalidEscape
  | invalidCodeEscape
  | byteOrderMark
  deriving DecidableEq, Repr

/-- Why a text is not read. -/
inductive Fault where
  /-- The text is malformed where `rest` begins. -/
  | malformed (kind : FaultKind) (rest : List Char)
  /-- A whole number has too many digits. -/
  | oversizedNumber (digits : Nat)

/-- What is left after the blanks that JSON allows between its parts. -/
def skipBlanks (s : List Char) : List Char :=
  s.dropWhile fun c => c == ' ' || c == '\t' || c == '\n' || c == '\r'

/-! ### Strings -/

/-- The character that a letter stands for after a backslash. -/
def escaped? : Char → Option Char
  | '\x22' => some '\x22'
  | '\\' => some '\\'
  | '/' => some '/'
  | 'b' => some '\x08'
  | 'f' => some '\x0c'
  | 'n' => some '\n'
  | 'r' => some '\r'
  | 't' => some '\t'
  | _ => none

/-- A first half that waits for its second one, on its own if none came. -/
def flush : Option Nat → List CodePoint
  | none => []
  | some code => [.half code]

/-- The code points of a unit after a waiting first half, and the half that waits then. -/
def joinUnit (waiting : Option Nat) (unit : Nat) : List CodePoint × Option Nat :=
  if 0xdc00 ≤ unit ∧ unit ≤ 0xdfff then
    match waiting with
    | some first => ([.ofNat (0x10000 + (first - 0xd800) * 0x400 + (unit - 0xdc00))], none)
    | none => ([.half unit], none)
  else if 0xd800 ≤ unit ∧ unit ≤ 0xdbff then (flush waiting, some unit)
  else (flush waiting ++ [.ofNat unit], none)

/-- Reads the inside of a string up to its closing quote.  `start` is the text from the opening
quote on, and `waiting` the first half of a character in two code units. -/
def readString (start : List Char) (waiting : Option Nat) :
    List Char → Except Fault (List CodePoint × List Char)
  | [] => .error (.malformed .unterminatedString start)
  | '\x22' :: rest => .ok (flush waiting, rest)
  | ['\\'] => .error (.malformed .unterminatedString start)
  | '\\' :: 'u' :: a :: b :: c :: d :: rest =>
    match [a, b, c, d].mapM hexValue?, rest with
    | some digits, _ :: _ => do
      let (front, waiting) := joinUnit waiting (numberOfDigits 16 digits)
      let (back, rest) ← readString start waiting rest
      .ok (front ++ back, rest)
    | _, _ => .error (.malformed .invalidCodeEscape ('u' :: a :: b :: c :: d :: rest))
  | '\\' :: c :: rest =>
    match escaped? c with
    | some image => do
      let (back, rest) ← readString start none rest
      .ok (flush waiting ++ .char image :: back, rest)
    | none =>
      if c = 'u' then .error (.malformed .invalidCodeEscape (c :: rest))
      else .error (.malformed .invalidEscape ('\\' :: c :: rest))
  | c :: rest =>
    if c.toNat < 0x20 then .error (.malformed .controlCharacter (c :: rest))
    else do
      let (back, rest) ← readString start none rest
      .ok (flush waiting ++ .char c :: back, rest)

/-! ### Numbers -/

/-- The digits of a whole number: a zero alone, or a run that begins with another digit. -/
def takeWhole? : List Char → Option (List Char × List Char)
  | '0' :: rest => some (['0'], rest)
  | c :: rest =>
    if isAsciiDigit c then some (c :: rest.takeWhile isAsciiDigit, rest.dropWhile isAsciiDigit)
    else none
  | [] => none

/-- The digits after a point, if a point and a digit follow. -/
def takeFraction? : List Char → Option (List Char × List Char)
  | '.' :: c :: rest =>
    if isAsciiDigit c then some (c :: rest.takeWhile isAsciiDigit, rest.dropWhile isAsciiDigit)
    else none
  | _ => none

/-- The exponent, if its mark, perhaps a sign, and a digit follow. -/
def takeExponent? : List Char → Option (Int × List Char)
  | e :: rest =>
    if e = 'e' ∨ e = 'E' then
      let (negative, rest) := match rest with
        | '-' :: rest => (true, rest)
        | '+' :: rest => (false, rest)
        | rest => (false, rest)
      let digits := rest.takeWhile isAsciiDigit
      if digits.isEmpty then none
      else
        let size : Int := numberOfDigits 10 (digits.map fun c => c.toNat - 48)
        some (if negative then -size else size, rest.dropWhile isAsciiDigit)
    else none
  | [] => none

/-- The number written in a run of ASCII digits. -/
def numberOfAscii (digits : List Char) : Nat :=
  numberOfDigits 10 (digits.map fun c => c.toNat - 48)

/-- Reads a number without its sign. -/
def readNumber (start : List Char) (negative : Bool) (s : List Char) :
    Except Fault (Value × List Char) :=
  match takeWhole? s with
  | none => .error (.malformed .expectingValue start)
  | some (whole, rest) =>
    let fraction? := takeFraction? rest
    let (fraction, rest) := fraction?.getD ([], rest)
    let exponent? := takeExponent? rest
    let (exponent, rest) := exponent?.getD (0, rest)
    if fraction?.isNone && exponent?.isNone then
      if whole.length > maxDigits then .error (.oversizedNumber whole.length)
      else
        let n : Int := numberOfAscii whole
        .ok (.int (if negative then -n else n), rest)
    else
      let x := Binary64.ofDecimal (numberOfAscii (whole ++ fraction)) (exponent - fraction.length)
      .ok (.float (if negative then -x else x), rest)

/-! ### Values -/

/-- What follows a word, if the text begins with it. -/
def dropWord? : List Char → List Char → Option (List Char)
  | [], s => some s
  | c :: word, d :: s => if c = d then dropWord? word s else none
  | _ :: _, [] => none

/-- The values that are written as words. -/
def wordValues : List (List Char × Value) :=
  [("null".toList, .null), ("true".toList, .bool true), ("false".toList, .bool false),
    ("NaN".toList, .float (0.0 / 0.0)), ("Infinity".toList, .float (1.0 / 0.0)),
    ("-Infinity".toList, .float (-1.0 / 0.0))]

/-- Reads a value that is neither a string nor a container. -/
def readScalar (s : List Char) : Except Fault (Value × List Char) :=
  match wordValues.findSome? fun (word, value) => (dropWord? word s).map (value, ·) with
  | some found => .ok found
  | none =>
    match s with
    | '-' :: rest => readNumber s true rest
    | _ => readNumber s false s

/-- Whether two names of members are the same. -/
def sameName : Value → Value → Bool
  | .text s, .text t => s == t
  | .illFormed s, .illFormed t => s == t
  | _, _ => false

/-- Writes a member: in place if its name is there, at the end otherwise. -/
def putMember (name value : Value) : List (Value × Value) → List (Value × Value)
  | [] => [(name, value)]
  | (key, old) :: rest =>
    if sameName key name then (key, value) :: rest else (key, old) :: putMember name value rest

mutual

/-- Reads one value.  The fuel bounds the calls below this one. -/
def readValue : Nat → List Char → Except Fault (Value × List Char)
  | 0, s => .error (.malformed .expectingValue s)
  | fuel + 1, s =>
    match s with
    | '\x22' :: rest => do
      let (points, rest) ← readString s none rest
      .ok (.ofPoints points, rest)
    | '\x7b' :: rest =>
      match skipBlanks rest with
      | '\x7d' :: rest => .ok (.map [], rest)
      | rest => do
        let (members, rest) ← readMembers fuel [] rest
        .ok (.map members, rest)
    | '[' :: rest =>
      match skipBlanks rest with
      | ']' :: rest => .ok (.list [], rest)
      | rest => do
        let (items, rest) ← readItems fuel rest
        .ok (.list items, rest)
    | s => readScalar s

/-- Reads the items of a list and its closing bracket. -/
def readItems : Nat → List Char → Except Fault (List Value × List Char)
  | 0, s => .error (.malformed .expectingValue s)
  | fuel + 1, s => do
    let (item, rest) ← readValue fuel s
    match skipBlanks rest with
    | ']' :: rest => .ok ([item], rest)
    | ',' :: rest => do
      let (items, rest) ← readItems fuel (skipBlanks rest)
      .ok (item :: items, rest)
    | rest => .error (.malformed .expectingComma rest)

/-- Reads the members of an object, after those in `before`, and its closing brace. -/
def readMembers : Nat → List (Value × Value) → List Char →
    Except Fault (List (Value × Value) × List Char)
  | 0, _, s => .error (.malformed .expectingValue s)
  | fuel + 1, before, s =>
    match s with
    | '\x22' :: rest => do
      let (name, rest) ← readString s none rest
      match skipBlanks rest with
      | ':' :: rest => do
        let (value, rest) ← readValue fuel (skipBlanks rest)
        let members := putMember (.ofPoints name) value before
        match skipBlanks rest with
        | '\x7d' :: rest => .ok (members, rest)
        | ',' :: rest => readMembers fuel members (skipBlanks rest)
        | rest => .error (.malformed .expectingComma rest)
      | rest => .error (.malformed .expectingColon rest)
    | s => .error (.malformed .expectingName s)

end

/-- Reads a whole text.  A call takes at least one character or is the only call to do so from
where it stands, so twice the length is fuel enough. -/
def read (s : List Char) : Except Fault Value :=
  match s with
  | '\ufeff' :: _ => .error (.malformed .byteOrderMark s)
  | _ => do
    let (value, rest) ← readValue (2 * s.length + 2) (skipBlanks s)
    match skipBlanks rest with
    | [] => .ok value
    | rest => .error (.malformed .extraData rest)

/-! ### Messages -/

/-- What a fault is called. -/
def FaultKind.message : FaultKind → String
  | .expectingValue => "Expecting value"
  | .extraData => "Extra data"
  | .expectingName => "Expecting property name enclosed in double quotes"
  | .expectingColon => "Expecting ':' delimiter"
  | .expectingComma => "Expecting ',' delimiter"
  | .unterminatedString => "Unterminated string starting at"
  | .controlCharacter => "Invalid control character at"
  | .invalidEscape => "Invalid \\escape"
  | .invalidCodeEscape => "Invalid \\uXXXX escape"
  | .byteOrderMark => "Unexpected UTF-8 BOM (decode using utf-8-sig)"

/-- A fault of a text with its place: line and column count from one, characters from zero. -/
def placedMessage (text : List Char) (kind : FaultKind) (rest : List Char) : String :=
  let before := text.take (text.length - rest.length)
  let line := before.count '\n' + 1
  let column := (before.reverse.takeWhile (· != '\n')).length + 1
  kind.message ++ ": line " ++ toString line ++ " column " ++ toString column ++
    " (char " ++ toString before.length ++ ")"

end PluginOrder.Json
