import PluginOrder.Text.Digit
import PluginOrder.Yaml.Fault

/-!
# Time stamps

A day, perhaps with a time of day, a fraction of a second, and the distance from universal time.
-/

namespace PluginOrder.Yaml

/-- A time of day as it is written. -/
structure WrittenClock where
  hour : Nat
  minute : Nat
  second : Nat
  microsecond : Nat
  /-- The distance from universal time in minutes, if one is written. -/
  offset : Option Int
  deriving DecidableEq, Repr

/-- A time stamp as it is written; whether there is such a day or time is another matter. -/
structure Timestamp where
  year : Nat
  month : Nat
  day : Nat
  clock : Option WrittenClock
  deriving DecidableEq, Repr

namespace Timestamp

/-- The number written in a run of ASCII digits, and what follows it. -/
def digits? (least most : Nat) (s : List Char) : Option (Nat × List Char) :=
  let run := (s.take most).takeWhile Text.isAsciiDigit
  if run.length < least then none
  else some (Text.numberOfDigits 10 (run.map fun c => c.toNat - 48), s.drop run.length)

/-- What follows a character, if the text begins with it. -/
def after? (c : Char) : List Char → Option (List Char)
  | d :: rest => if d = c then some rest else none
  | [] => none

/-- Whether a character is a space or a tab. -/
def isSpace (c : Char) : Bool := c == ' ' || c == '\t'

/-- What follows the mark between day and time: a letter, or spaces. -/
def afterMark? : List Char → Option (List Char)
  | c :: rest =>
    if c = 'T' ∨ c = 't' then some rest
    else if isSpace c then some (rest.dropWhile isSpace)
    else none
  | [] => none

/-- The millionths that a fraction writes, further digits being cut off. -/
def microseconds (fraction : List Char) : Nat :=
  let kept := fraction.take 6
  Text.numberOfDigits 10 (kept.map fun c => c.toNat - 48) * Nat.pow 10 (6 - kept.length)

/-- Reads the distance from universal time, which ends the text. -/
def offset? (s : List Char) : Option (Option Int) :=
  if s.isEmpty then some none
  else
    match s.dropWhile isSpace with
    | ['Z'] => some (some 0)
    | sign :: rest => do
      let (hours, rest) ← digits? 1 2 rest
      let (minutes, rest) ← match rest with
        | ':' :: rest => digits? 2 2 rest
        | rest => some (0, rest)
      if !rest.isEmpty then none
      else
        let distance : Int := (hours * 60 + minutes : Nat)
        if sign = '+' then some (some distance)
        else if sign = '-' then some (some (-distance))
        else none
    | [] => none

/-- Reads a time of day, which ends the text. -/
def clock? (s : List Char) : Option WrittenClock := do
  let (hour, rest) ← digits? 1 2 s
  let (minute, rest) ← digits? 2 2 (← after? ':' rest)
  let (second, rest) ← digits? 2 2 (← after? ':' rest)
  let (fraction, rest) := match rest with
    | '.' :: rest => (rest.takeWhile Text.isAsciiDigit, rest.dropWhile Text.isAsciiDigit)
    | rest => ([], rest)
  some ⟨hour, minute, second, microseconds fraction, ← offset? rest⟩

/-- Reads a time stamp. -/
def read? (s : List Char) : Option Timestamp := do
  let (year, rest) ← digits? 4 4 s
  let (month, rest) ← digits? 1 2 (← after? '-' rest)
  let (day, rest) ← digits? 1 2 (← after? '-' rest)
  if rest.isEmpty then some ⟨year, month, day, none⟩
  else some ⟨year, month, day, some (← clock? (← afterMark? rest))⟩

/-- Whether a text looks like a time stamp: it is one, and a day without a time has all its
digits. -/
def isPlain (s : List Char) : Bool :=
  match read? s with
  | some stamp => stamp.clock.isSome || s.length == 10
  | none => false

/-- The day or the moment of a time stamp.  The distance from universal time is checked first. -/
def value (stamp : Timestamp) : Except CalendarFault Value :=
  match stamp.clock with
  | none => (Date.of stamp.year stamp.month stamp.day).map .date
  | some clock => do
    let offset ← match clock.offset with
      | none => .ok none
      | some minutes => (Moment.checkOffset minutes).map some
    let moment ← Moment.of stamp.year stamp.month stamp.day clock.hour clock.minute clock.second
      clock.microsecond offset
    .ok (.moment moment)

end Timestamp

end PluginOrder.Yaml
