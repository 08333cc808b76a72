import PluginOrder.Text.Blank
import PluginOrder.Text.Digit
import PluginOrder.Version.Basic

/-!
# Written versions

The grammar of versions as they are written, in two dialects.  A *pattern* is a version whose
parts may be missing or wildcards (`1`, `1.2.x`, `*`, `1.2.3-rc.1+build`); a concrete version is
a pattern with three numbers.

The strict dialect wants numbers without leading zeros and a dash before a pre-release.  The
loose dialect also takes leading zeros, a run of `v`, `=` and blanks in front, and a
pre-release that begins with a letter right after the third number.
-/

namespace PluginOrder

open Text

/-- How strictly versions are read. -/
inductive Dialect where
  | strict
  | loose
  deriving DecidableEq, Repr

namespace Dialect

/-- The loose dialect if the flag is set. -/
def ofLoose (loose : Bool) : Dialect := if loose then .loose else .strict

end Dialect

/-- The characters that may stand in front of a pattern. -/
def isVersionLead (c : Char) : Bool := c == 'v' || c == '=' || isBlank c

/-- The characters of pre-release and build identifiers. -/
def isIdentifierChar (c : Char) : Bool := isAsciiLetter c || isAsciiDigit c || c == '-'

/-- The characters that make an identifier alphanumeric. -/
def isIdentifierLetter (c : Char) : Bool := isAsciiLetter c || c == '-'

/-- Whether a part of a pattern is a wildcard. -/
def isWildcard (part : List Char) : Bool := part == ['x'] || part == ['X'] || part == ['*']

/-! ### Numbers and wildcards -/

/-- Takes a number off the front: in the strict dialect a zero alone or a digit from 1 to 9 with
all decimal digits after it, in the loose one all ASCII digits. -/
def takeNumber? : Dialect → List Char → Option (List Char × List Char)
  | .strict, c :: rest =>
    if c = '0' then some (['0'], rest)
    else if '1' ≤ c ∧ c ≤ '9' then some (c :: rest.takeWhile isDigit, rest.dropWhile isDigit)
    else none
  | .loose, c :: rest =>
    if isAsciiDigit c then
      some (c :: rest.takeWhile isAsciiDigit, rest.dropWhile isAsciiDigit)
    else none
  | _, [] => none

/-- Takes a number or a wildcard off the front. -/
def takePart? (d : Dialect) (s : List Char) : Option (List Char × List Char) :=
  match takeNumber? d s with
  | some taken => some taken
  | none =>
    match s with
    | c :: rest => if isWildcard [c] then some ([c], rest) else none
    | [] => none

/-! ### Pre-release and build -/

/-- Whether a text is a number of the dialect, whole. -/
def isNumber (d : Dialect) (s : List Char) : Bool :=
  match takeNumber? d s with
  | some (_, rest) => rest.isEmpty
  | none => false

/-- Whether a text is an alphanumeric identifier: decimal digits, then a letter or a dash, then
identifier characters. -/
def isAlphanumeric (s : List Char) : Bool :=
  match s.dropWhile isDigit with
  | c :: rest => isIdentifierLetter c && rest.all isIdentifierChar
  | [] => false

/-- Whether a text is one identifier of a pre-release. -/
def isPreIdentifier (d : Dialect) (s : List Char) : Bool := isNumber d s || isAlphanumeric s

/-- Whether a text is dot-separated pre-release identifiers. -/
def isPre (d : Dialect) (s : List Char) : Bool := (splitOn '.' s).all (isPreIdentifier d)

/-- Whether a text is a pre-release that needs no dash in front: it begins with a letter or a
dash itself. -/
def isBarePre : List Char → Bool
  | c :: rest =>
    match splitOn '.' rest with
    | first :: others =>
      isIdentifierLetter c && first.all isIdentifierChar && others.all (isPreIdentifier .loose)
    | [] => false
  | [] => false

/-- Whether a text is dot-separated build identifiers. -/
def isBuild (s : List Char) : Bool :=
  (splitOn '.' s).all fun part => !part.isEmpty && part.all isIdentifierChar

/-- Reads what stands between the third number and the build: nothing, or a pre-release. -/
def readPre? : Dialect → List Char → Option (Option (List Char))
  | _, [] => some none
  | .strict, c :: rest => if c = '-' ∧ isPre .strict rest then some (some rest) else none
  | .loose, c :: rest =>
    if c = '-' ∧ isPre .loose rest then some (some rest)
    else if isBarePre (c :: rest) then some (some (c :: rest))
    else none

/-- Reads all that may follow the third number: a pre-release and build metadata, each optional.
The answer is the pre-release. -/
def readTail? (d : Dialect) (s : List Char) : Option (Option (List Char)) :=
  match cut '+' s with
  | (pre, none) => readPre? d pre
  | (pre, some build) => if isBuild build then readPre? d pre else none

/-! ### Patterns -/

/-- The parts of a version as written, later parts possibly missing. -/
structure Pattern where
  major : List Char
  minor : Option (List Char)
  patch : Option (List Char)
  /-- The text of the pre-release, without the dash that sets it off. -/
  pre : Option (List Char)
  deriving DecidableEq, Repr

namespace Pattern

/-- Reads a pattern that has nothing in front of it. -/
def readCore? (d : Dialect) (s : List Char) : Option Pattern := do
  let (major, rest) ← takePart? d s
  match rest with
  | [] => some ⟨major, none, none, none⟩
  | '.' :: rest => do
    let (minor, rest) ← takePart? d rest
    match rest with
    | [] => some ⟨major, some minor, none, none⟩
    | '.' :: rest => do
      let (patch, rest) ← takePart? d rest
      let pre ← readTail? d rest
      some ⟨major, some minor, some patch, pre⟩
    | _ => none
  | _ => none

/-- Reads a pattern, skipping any `v`, `=` and blanks in front. -/
def read? (d : Dialect) (s : List Char) : Option Pattern := readCore? d (s.dropWhile isVersionLead)

/-- Whether a part leaves its number open: it is missing or a wildcard. -/
def isOpen : Option (List Char) → Bool
  | none => true
  | some part => isWildcard part

end Pattern

/-! ### Concrete versions -/

namespace Version

/-- Reads one identifier of a pre-release: a number if it is all digits. -/
def readIdentifier? (s : List Char) : Option Identifier :=
  if s.all isDigit then (readNat? s).map .numeric else some (.alphanumeric s)

/-- The version of a pattern with three numbers. -/
def ofPattern? (p : Pattern) : Option Version := do
  let major ← readNat? p.major
  let minor ← readNat? (← p.minor)
  let patch ← readNat? (← p.patch)
  let pre ← match p.pre with
    | none => some []
    | some pre => (splitOn '.' pre).mapM readIdentifier?
  some ⟨major, minor, patch, pre⟩

/-- Reads a pattern with three numbers: the strict dialect allows one `v` in front, the loose one
any `v`, `=` and blanks. -/
def readWritten? (d : Dialect) (s : List Char) : Option Pattern := do
  let core := match d, s with
    | .strict, 'v' :: rest => rest
    | .strict, s => s
    | .loose, s => s.dropWhile isVersionLead
  let p ← Pattern.readCore? d core
  let minor ← p.minor
  let patch ← p.patch
  if isWildcard p.major || isWildcard minor || isWildcard patch then none else some p

/-- Drops one line break at the end. -/
def chomp (s : List Char) : List Char :=
  match s.reverse with
  | '\n' :: rest => rest.reverse
  | _ => s

/-- Reads a concrete version.  One line break may follow it. -/
def read? (d : Dialect) (s : List Char) : Option Version :=
  readWritten? d (chomp s) >>= ofPattern?

end Version

/-- Whether a text is a concrete version. -/
def isValidVersion (d : Dialect) (s : List Char) : Bool := (Version.read? d s).isSome

end PluginOrder
