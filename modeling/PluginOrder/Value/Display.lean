import PluginOrder.Value
import PluginOrder.Decimal.Layout
import PluginOrder.Text.Quoted

/-!
# The text of a value

A text shows as itself, every other value by its literal: `None`, `True`, numbers in decimal,
lists and maps in brackets with quoted texts inside.  A whole number of more than `Text.maxDigits`
digits has no text, and neither has a value that holds one.

The texts of the collections that a value names by their numbers are a parameter here.
-/

namespace PluginOrder

open Text

/-- A number in decimal with leading zeros up to a width. -/
def padNat (width n : Nat) : String :=
  let digits := Nat.toDigits 10 n
  String.ofList (List.replicate (width - digits.length) '0' ++ digits)

/-- Texts with a separator between neighbours. -/
def joinTexts (sep : String) (texts : List String) : String := sep.intercalate texts

/-- A duration of whole minutes, as days and the seconds that remain. -/
def literalOfMinutes (minutes : Int) : String :=
  let days := minutes.fdiv 1440
  let seconds := minutes.fmod 1440 * 60
  let parts :=
    (if days = 0 then [] else ["days=" ++ toString days]) ++
      (if seconds = 0 then [] else ["seconds=" ++ toString seconds])
  "datetime.timedelta(" ++ (if parts.isEmpty then "0" else joinTexts ", " parts) ++ ")"

namespace Date

/-- Year, month and day, with dashes. -/
def display (d : Date) : String :=
  padNat 4 d.year ++ "-" ++ padNat 2 d.month ++ "-" ++ padNat 2 d.day

/-- The literal of a day. -/
def literal (d : Date) : String :=
  "datetime.date(" ++ joinTexts ", " ([d.year, d.month, d.day].map toString) ++ ")"

end Date

namespace Moment

/-- The distance from universal time, as a sign with hours and minutes. -/
def displayOffset (minutes : Int) : String :=
  (if minutes < 0 then "-" else "+") ++ padNat 2 (minutes.natAbs / 60) ++ ":" ++
    padNat 2 (minutes.natAbs % 60)

/-- The time of day, with the microseconds unless there are none. -/
def displayTime (m : Moment) : String :=
  padNat 2 m.hour ++ ":" ++ padNat 2 m.minute ++ ":" ++ padNat 2 m.second ++
    if m.microsecond = 0 then "" else "." ++ padNat 6 m.microsecond

/-- The day, the time of day, and the distance from universal time if it is known. -/
def display (m : Moment) : String :=
  m.date.display ++ " " ++ m.displayTime ++
    match m.offset with
    | none => ""
    | some minutes => displayOffset minutes

/-- A moment in universal time, as it is written in a log. -/
def stamp (m : Moment) : String := m.date.display ++ "T" ++ m.displayTime ++ "Z"

/-- The literal of a moment: zero seconds and microseconds at the end are left out. -/
def literal (m : Moment) : String :=
  let clock :=
    if m.microsecond ≠ 0 then [m.second, m.microsecond]
    else if m.second ≠ 0 then [m.second]
    else []
  let numbers := [m.date.year, m.date.month, m.date.day, m.hour, m.minute] ++ clock
  let zone := match m.offset with
    | none => []
    | some 0 => ["tzinfo=datetime.timezone.utc"]
    | some minutes => ["tzinfo=datetime.timezone(" ++ literalOfMinutes minutes ++ ")"]
  "datetime.datetime(" ++ joinTexts ", " (numbers.map toString ++ zone) ++ ")"

end Moment

/-- A whole number in decimal, if it has few enough digits. -/
def displayInt? (n : Int) : Option String :=
  (showNat? n.natAbs).map fun digits => (if n < 0 then "-" else "") ++ String.ofList digits

/-- One octet inside quotes. -/
def quoteOctet (quote : Char) (b : UInt8) : List Char :=
  let c := Char.ofNat b.toNat
  if c = quote ∨ c = '\\' then ['\\', c]
  else if c = '\t' then ['\\', 't']
  else if c = '\n' then ['\\', 'n']
  else if c = '\r' then ['\\', 'r']
  else if 0x20 ≤ b.toNat ∧ b.toNat < 0x7f then [c]
  else '\\' :: 'x' :: hex 2 b.toNat

/-- The literal of octets. -/
def literalOfOctets (bytes : List UInt8) : String :=
  let quote := quoteFor (bytes.map fun b => Char.ofNat b.toNat)
  String.ofList ('b' :: quote :: bytes.flatMap (quoteOctet quote) ++ [quote])

namespace Value

mutual

/-- The literal of a value, given the literals of the collections that have a number. -/
def literalWith (shared : Nat → Option String) : Value → Option String
  | .null => some "None"
  | .bool b => some (if b then "True" else "False")
  | .int n => displayInt? n
  | .float x => some (documentFloat.render x)
  | .text s => some (quote s)
  | .illFormed points => some (quotePoints points)
  | .octets bytes => some (literalOfOctets bytes)
  | .date d => some d.literal
  | .moment m => some m.literal
  | .list items => (literalsWith shared items).map fun ls => "[" ++ joinTexts ", " ls ++ "]"
  | .pair key value => do
    some ("(" ++ (← literalWith shared key) ++ ", " ++ (← literalWith shared value) ++ ")")
  | .set members =>
    (literalsWith shared members).map fun ls =>
      if ls.isEmpty then "set()" else "\x7b" ++ joinTexts ", " ls ++ "\x7d"
  | .map entries =>
    (entryLiteralsWith shared entries).map fun ls => "\x7b" ++ joinTexts ", " ls ++ "\x7d"
  | .shared number => shared number

/-- The literals of the items of a list. -/
def literalsWith (shared : Nat → Option String) : List Value → Option (List String)
  | [] => some []
  | item :: rest => do
    let first ← literalWith shared item
    let others ← literalsWith shared rest
    some (first :: others)

/-- The literals of the entries of a map. -/
def entryLiteralsWith (shared : Nat → Option String) :
    List (Value × Value) → Option (List String)
  | [] => some []
  | (key, value) :: rest => do
    let k ← literalWith shared key
    let v ← literalWith shared value
    let others ← entryLiteralsWith shared rest
    some ((k ++ ": " ++ v) :: others)

end

/-- The text of a value, given the literals of the collections that have a number.  An ill-formed
text has none but its literal. -/
def displayWith (shared : Nat → Option String) : Value → Option String
  | .text s => some s
  | .date d => some d.display
  | .moment m => some m.display
  | v => v.literalWith shared

/-- The literal of a value that stands alone. -/
def literal? (v : Value) : Option String := v.literalWith fun _ => none

/-- The literals of values that stand alone. -/
def literals? (vs : List Value) : Option (List String) := literalsWith (fun _ => none) vs

/-- The text of a value that stands alone. -/
def display? (v : Value) : Option String := v.displayWith fun _ => none

/-- What the kind of a value is called in messages. -/
def kindName : Value → String
  | .null => "NoneType"
  | .bool _ => "bool"
  | .int _ => "int"
  | .float _ => "float"
  | .text _ | .illFormed _ => "str"
  | .octets _ => "bytes"
  | .date _ => "datetime.date"
  | .moment _ => "datetime.datetime"
  | .list _ | .shared _ => "list"
  | .pair _ _ => "tuple"
  | .set _ => "set"
  | .map _ => "dict"

end Value

end PluginOrder
