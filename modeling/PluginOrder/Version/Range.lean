import PluginOrder.Version.Shorthand

/-!
# Version ranges

A range is a list of alternatives separated by `||`, each a list of comparators.  A version
satisfies a range if it meets all comparators of one alternative.

In the strict dialect every piece must be a comparator.  The loose dialect drops pieces that are
none, and then alternatives that have nothing left.  A range needs at least one alternative.
-/

namespace PluginOrder

open Text

/-- The alternatives of a range. -/
abbrev Range := List (List Comparator)

namespace Range

/-- Splits a range at its double bars. -/
def splitBars : List Char → List (List Char)
  | '|' :: '|' :: rest => [] :: splitBars rest
  | c :: rest => consHead c (splitBars rest)
  | [] => [[]]

/-- Reads one alternative. -/
def readAlternative? (d : Dialect) (s : List Char) : Option (List Comparator) := do
  let texts ← Shorthand.comparators? d s
  let texts := match d with
    | .strict => texts
    | .loose => texts.filter (Comparator.isWritten d)
  texts.mapM (Comparator.read? d)

/-- Reads a range. -/
def read? (d : Dialect) (s : List Char) : Option Range := do
  let alternatives ← (splitBars s).mapM (readAlternative? d)
  let kept := alternatives.filter (!·.isEmpty)
  if kept.isEmpty then none else some kept

/-- Whether a version meets one of the alternatives. -/
def admits (includePrerelease : Bool) (v : Version) (r : Range) : Bool :=
  r.any (admitsAll includePrerelease v)

end Range

/-- Whether a text is a range. -/
def isValidRange (d : Dialect) (s : List Char) : Bool := (Range.read? d s).isSome

/-- Whether a version satisfies a range, both as text.  What cannot be read does not match. -/
def satisfies (d : Dialect) (includePrerelease : Bool) (version range : List Char) : Bool :=
  match Version.read? d version, Range.read? d range with
  | some v, some r => r.admits includePrerelease v
  | _, _ => false

end PluginOrder
