import PluginOrder.Text.CodePoint
import PluginOrder.Text.Digit

/-!
# Document values

What a JSON or YAML document holds: scalars, lists and maps, and the few further kinds that YAML
tags can name.  Maps keep the order of their keys, and a key may be any scalar.

A collection that occurs at several places, or inside itself, is named by its number there; which
collection has the number is told by the document (`PluginOrder.Document`).
-/

namespace PluginOrder

/-- A day of the calendar. -/
structure Date where
  year : Nat
  month : Nat
  day : Nat
  deriving DecidableEq, Repr

/-- A day with a time of day, and the distance from universal time in minutes if it is known. -/
structure Moment where
  date : Date
  hour : Nat
  minute : Nat
  second : Nat
  microsecond : Nat
  offset : Option Int
  deriving DecidableEq, Repr

/-- A value of a document. -/
inductive Value where
  | null
  | bool (value : Bool)
  | int (value : Int)
  | float (value : Float)
  | text (value : String)
  /-- A text with half of a surrogate pair on its own. -/
  | illFormed (points : List Text.CodePoint)
  | octets (value : List UInt8)
  | date (value : Date)
  | moment (value : Moment)
  | list (items : List Value)
  /-- A key with its value, as an element of an ordered map. -/
  | pair (key value : Value)
  | set (members : List Value)
  | map (entries : List (Value × Value))
  /-- The collection of the document that has a number. -/
  | shared (number : Nat)
  deriving Inhabited

namespace Value

/-- The value of a text key among the entries of a map. -/
def lookup? (key : String) : List (Value × Value) → Option Value
  | [] => none
  | (.text k, value) :: rest => if k = key then some value else lookup? key rest
  | _ :: rest => lookup? key rest

/-- The value of a text key of a map. -/
def get? (v : Value) (key : String) : Option Value :=
  match v with
  | .map entries => lookup? key entries
  | _ => none

/-- Whether a value counts as true: all do but null, false, zero and whatever is empty. -/
def isTruthy : Value → Bool
  | .null => false
  | .bool b => b
  | .int n => n != 0
  | .float x => !(x == 0.0)
  | .text s => !s.isEmpty
  | .octets bytes => !bytes.isEmpty
  | .list items => !items.isEmpty
  | .set members => !members.isEmpty
  | .map entries => !entries.isEmpty
  | .illFormed _ | .date _ | .moment _ | .pair _ _ | .shared _ => true

/-- The text of some code points. -/
def ofPoints (points : List Text.CodePoint) : Value :=
  match Text.CodePoint.chars? points with
  | some chars => .text (String.ofList chars)
  | none => .illFormed points

/-- Whether a value is a given text. -/
def isText (s : String) : Value → Bool
  | .text t => t == s
  | _ => false

/-- A map with text keys. -/
def object (entries : List (String × Value)) : Value :=
  .map (entries.map fun (key, value) => (.text key, value))

/-- A list of texts. -/
def texts (items : List String) : Value := .list (items.map .text)

/-- A natural number. -/
def nat (n : Nat) : Value := .int n

/-- A text, or null. -/
def text? : Option String → Value
  | some s => .text s
  | none => .null

end Value

end PluginOrder
