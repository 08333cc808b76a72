/-!
# Concrete versions and their order

A version is a triple of numbers with an optional list of pre-release identifiers.  Build
metadata plays no part in any comparison and is not kept.

`Version.compare` is the precedence order: the triple first, then a version without a
pre-release above every pre-release of the same triple, then identifier by identifier.
-/

namespace PluginOrder

/-- One dot-separated part of a pre-release. -/
inductive Identifier where
  /-- A part that is a number. -/
  | numeric (value : Nat)
  /-- Any other part. -/
  | alphanumeric (text : List Char)
  deriving DecidableEq, Repr

namespace Identifier

/-- Texts by code points, a proper beginning first. -/
def compareText : List Char → List Char → Ordering
  | [], [] => .eq
  | [], _ :: _ => .lt
  | _ :: _, [] => .gt
  | a :: s, b :: t => (Ord.compare a.toNat b.toNat).then (compareText s t)

/-- Numbers come before other identifiers. -/
def compare : Identifier → Identifier → Ordering
  | .numeric a, .numeric b => Ord.compare a b
  | .numeric _, .alphanumeric _ => .lt
  | .alphanumeric _, .numeric _ => .gt
  | .alphanumeric s, .alphanumeric t => compareText s t

/-- Identifier by identifier; of two lists that agree as far as both go, the shorter is less. -/
def compareAll : List Identifier → List Identifier → Ordering
  | [], [] => .eq
  | [], _ :: _ => .lt
  | _ :: _, [] => .gt
  | a :: s, b :: t => (a.compare b).then (compareAll s t)

end Identifier

/-- A concrete version. -/
structure Version where
  major : Nat
  minor : Nat
  patch : Nat
  /-- The identifiers of the pre-release; none for a release. -/
  pre : List Identifier
  deriving DecidableEq, Repr

namespace Version

/-- Whether the version is a pre-release. -/
def isPrerelease (v : Version) : Bool := !v.pre.isEmpty

/-- Whether two versions have the same three numbers. -/
def sameTriple (v w : Version) : Bool :=
  v.major == w.major && v.minor == w.minor && v.patch == w.patch

/-- The order of the three numbers alone. -/
def compareTriple (v w : Version) : Ordering :=
  ((Ord.compare v.major w.major).then (Ord.compare v.minor w.minor)).then
    (Ord.compare v.patch w.patch)

/-- The order of the pre-release parts: having none is above having one. -/
def comparePre : List Identifier → List Identifier → Ordering
  | [], [] => .eq
  | [], _ :: _ => .gt
  | _ :: _, [] => .lt
  | s, t => Identifier.compareAll s t

/-- The precedence order of versions. -/
def compare (v w : Version) : Ordering :=
  (v.compareTriple w).then (comparePre v.pre w.pre)

end Version

end PluginOrder
