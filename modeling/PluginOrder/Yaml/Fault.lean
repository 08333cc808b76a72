import PluginOrder.Calendar
import PluginOrder.Text.Quoted

/-!
# Faults of YAML documents

A document is malformed, or it is well formed but holds a scalar that has no value of the type
that it is marked with or looks like.
-/

namespace PluginOrder.Yaml

open Text

/-- Why a document has no value. -/
inductive Fault where
  /-- The document is malformed, has a tag that is not known, or is not alone in its stream. -/
  | malformed
  /-- A numeral is not one in its base. -/
  | notNumeral (base : Nat) (text : List CodePoint)
  /-- A numeral has too many digits. -/
  | oversizedNumeral (digits : Nat)
  /-- A number is the empty text. -/
  | emptyNumber
  /-- A decimal fraction is none. -/
  | notDecimal (text : List CodePoint)
  /-- A number has so many places of sixty that a double cannot hold what the first one counts. -/
  | oversizedPlace
  /-- A flag is spelled in no way that is known. -/
  | notFlag (text : List CodePoint)
  /-- A time stamp has no day. -/
  | notTimestamp
  /-- A map is marked as a time stamp. -/
  | stampedMap
  /-- A day or a time of day is not in the calendar. -/
  | notInCalendar (fault : CalendarFault)
  /-- An escape names a number that is no code point. -/
  | notCodePoint (code : Nat)
  deriving DecidableEq, Repr

/-- The greatest length of a numeral in a message. -/
def numeralLimit : Nat := 200

/-- A fault in words.  Of a malformed document no more is said. -/
def Fault.message : Fault → String
  | .malformed => "<yaml error>"
  | .notNumeral base text =>
    "invalid literal for int() with base " ++ toString base ++ ": " ++
      String.ofList ((quotePoints text).toList.take numeralLimit)
  | .oversizedNumeral digits => Text.oversizedNumeral digits
  | .emptyNumber => "string index out of range"
  | .notDecimal text => "could not convert string to float: " ++ quotePoints text
  | .oversizedPlace => "int too large to convert to float"
  | .notFlag text => quotePoints text
  | .notTimestamp => "'NoneType' object has no attribute 'groupdict'"
  | .stampedMap => "expected string or bytes-like object, got 'list'"
  | .notInCalendar fault => fault.message
  | .notCodePoint code =>
    if code < Nat.pow 2 31 then "chr() arg not in range(0x110000)"
    else "Python int too large to convert to C int"

end PluginOrder.Yaml
