import PluginOrder.Version.Pattern

/-!
# Comparators

A comparator is a relation to a bound, or the empty comparator that every version meets.  A
version meets a list of comparators if it meets each of them and, when it is a pre-release, one
of them names a pre-release of the same three numbers.  If pre-releases are admitted, that last
condition falls away and bounds are compared by their three numbers alone.
-/

namespace PluginOrder

open Text

/-- How a version relates to a bound. -/
inductive Relation where
  | less
  | atMost
  | equal
  | atLeast
  | greater
  deriving DecidableEq, Repr

namespace Relation

/-- Whether the relation holds, given how the version compares with the bound. -/
def holds : Relation → Ordering → Bool
  | .less, o => o == .lt
  | .atMost, o => o != .gt
  | .equal, o => o == .eq
  | .atLeast, o => o != .lt
  | .greater, o => o == .gt

end Relation

/-- Takes an operator off the front: `<` or `>` if there is one, then `=` if there is one. -/
def takeOperator : List Char → List Char × List Char
  | '<' :: '=' :: rest => (['<', '='], rest)
  | '>' :: '=' :: rest => (['>', '='], rest)
  | '<' :: rest => (['<'], rest)
  | '>' :: rest => (['>'], rest)
  | '=' :: rest => (['='], rest)
  | s => ([], s)

/-- The relation that an operator writes; no operator means equality. -/
def Relation.ofOperator : List Char → Relation
  | ['<'] => .less
  | ['<', '='] => .atMost
  | ['>'] => .greater
  | ['>', '='] => .atLeast
  | _ => .equal

/-- One condition on a version. -/
inductive Comparator where
  /-- The condition that every version meets. -/
  | any
  | bound (relation : Relation) (version : Version)
  deriving DecidableEq, Repr

namespace Comparator

/-- The operator and the version of a comparator as written; nothing for the empty one. -/
def readWritten? (d : Dialect) (s : List Char) : Option (Option (List Char × Pattern)) :=
  if s.isEmpty then some none
  else
    let (operator, rest) := takeOperator s
    (Version.readWritten? d (trimStart rest)).map fun p => some (operator, p)

/-- Whether a text has the form of a comparator. -/
def isWritten (d : Dialect) (s : List Char) : Bool := (readWritten? d s).isSome

/-- Reads a comparator. -/
def read? (d : Dialect) (s : List Char) : Option Comparator :=
  match readWritten? d s with
  | none => none
  | some none => some .any
  | some (some (operator, p)) =>
    (Version.ofPattern? p).map fun v => .bound (.ofOperator operator) v

/-- Whether a version meets the comparator.  If pre-releases are admitted, the pre-release parts
are not compared. -/
def admits (includePrerelease : Bool) (v : Version) : Comparator → Bool
  | .any => true
  | .bound relation w =>
    relation.holds (if includePrerelease then v.compareTriple w else v.compare w)

/-- Whether the comparator names a pre-release of the given version's three numbers. -/
def opensPrerelease (v : Version) : Comparator → Bool
  | .any => false
  | .bound _ w => w.isPrerelease && w.sameTriple v

end Comparator

/-- Whether a version meets all comparators of a list and, as a pre-release, is let in by one. -/
def admitsAll (includePrerelease : Bool) (v : Version) (comparators : List Comparator) : Bool :=
  comparators.all (·.admits includePrerelease v) &&
    (!v.isPrerelease || includePrerelease || comparators.any (·.opensPrerelease v))

end PluginOrder
