import PluginOrder.Version.Comparator

/-!
# Shorthands of ranges

Ranges are written with shorthands: hyphens (`1.0 - 2.0`), carets, tildes, wildcards and stars.
Each is spelled out, as text, in comparators.  One alternative is spelled out in two phases.

* **Tidying.**  A hyphen range becomes two comparators, blanks after an operator, a tilde or a
  caret vanish where a version follows, and the rest is cut into pieces at its blanks.
* **Expansion.**  Every piece goes through carets, tildes, wildcards and stars, in this order.

Numbers are raised by one in places; a number that has too many digits to be read or written
makes the whole range fail, which is what `none` stands for.
-/

namespace PluginOrder.Shorthand

open Text

/-! ### Texts of comparators -/

/-- The text of a number plus one. -/
def successor? (digits : List Char) : Option (List Char) := do
  showNat? ((← readNat? digits) + 1)

/-- The text `a.b.c`. -/
def triple (a b c : List Char) : List Char := a ++ '.' :: b ++ '.' :: c

/-- The text of a part, empty if the part is missing. -/
def part (p : Option (List Char)) : List Char := p.getD []

/-- The comparator `>=a.b.c`, with a pre-release if there is one. -/
def atLeast (a b c : List Char) (pre : Option (List Char)) : List Char :=
  ['>', '='] ++ triple a b c ++
    match pre with
    | none => []
    | some ('-' :: rest) => '-' :: rest
    | some rest => '-' :: rest

/-- The comparator `<a.b.c`. -/
def below (a b c : List Char) : List Char := '<' :: triple a b c

/-- The text `0`. -/
def zero : List Char := ['0']

/-- Two comparators with a blank between them. -/
def both (lower upper : List Char) : List Char := lower ++ ' ' :: upper

/-! ### Hyphen ranges -/

/-- The lower comparator of a hyphen range, whose left side is written `text`. -/
def hyphenLower (text : List Char) (p : Pattern) : List Char :=
  if isWildcard p.major then []
  else if Pattern.isOpen p.minor then atLeast p.major zero zero none
  else if Pattern.isOpen p.patch then atLeast p.major (part p.minor) zero none
  else '>' :: '=' :: text

/-- The upper comparator of a hyphen range, whose right side is written `text`. -/
def hyphenUpper? (text : List Char) (p : Pattern) : Option (List Char) :=
  if isWildcard p.major then some []
  else if Pattern.isOpen p.minor then do
    some (below (← successor? p.major) zero zero)
  else if Pattern.isOpen p.patch then do
    some (below p.major (← successor? (part p.minor)) zero)
  else
    match p.pre with
    | some pre => some ('<' :: '=' :: triple p.major (part p.minor) (part p.patch) ++ '-' :: pre)
    | none => some ('<' :: '=' :: text)

/-- The two sides of a hyphen range: the text and the pattern of each. -/
def hyphenSides? (d : Dialect) (s : List Char) :
    Option ((List Char × Pattern) × (List Char × Pattern)) := do
  let notBlank := fun c => !isBlank c
  let lead := s.takeWhile isVersionLead
  let rest := s.dropWhile isVersionLead
  let left := rest.takeWhile notBlank
  let rest := rest.dropWhile notBlank
  match rest, trimStart rest with
  | _ :: _, '-' :: b :: rest =>
    if isBlank b then
      let right := trim rest
      let p ← Pattern.readCore? d left
      let q ← Pattern.read? d right
      some ((lead ++ left, p), (right, q))
    else none
  | _, _ => none

/-- Spells a hyphen range out as two bounds; any other text stays as it is. -/
def expandHyphen? (d : Dialect) (s : List Char) : Option (List Char) :=
  match hyphenSides? d s with
  | none => some s
  | some ((left, p), (right, q)) => do
    some (trim (both (hyphenLower left p) (← hyphenUpper? right q)))

/-! ### Where a version ends

Blanks after an operator vanish only where a version follows, and scanning goes on where that
version ends.  An identifier is taken here as a number if it begins like one, even if more
identifier characters follow. -/

/-- What follows one identifier of a pre-release. -/
def afterIdentifier? (d : Dialect) (s : List Char) : Option (List Char) :=
  match takeNumber? d s with
  | some (_, rest) => some rest
  | none =>
    match s.dropWhile isDigit with
    | c :: rest => if isIdentifierLetter c then some (rest.dropWhile isIdentifierChar) else none
    | [] => none

/-- What follows one identifier of a build. -/
def afterBuildIdentifier? : List Char → Option (List Char)
  | c :: rest => if isIdentifierChar c then some (rest.dropWhile isIdentifierChar) else none
  | [] => none

/-- What follows further identifiers, each after a dot. -/
def afterDotted (next : List Char → Option (List Char)) : Nat → List Char → List Char
  | n + 1, '.' :: rest =>
    match next rest with
    | some rest' => afterDotted next n rest'
    | none => '.' :: rest
  | _, s => s

/-- What follows an optional pre-release. -/
def afterPre : Dialect → List Char → List Char
  | .strict, '-' :: rest =>
    match afterIdentifier? .strict rest with
    | some rest' => afterDotted (afterIdentifier? .strict) rest'.length rest'
    | none => '-' :: rest
  | .strict, s => s
  | .loose, s =>
    let dotted := fun rest : List Char => afterDotted (afterIdentifier? .loose) rest.length rest
    match s with
    | [] => []
    | c :: rest =>
      match if c = '-' then afterIdentifier? .loose rest else none with
      | some rest' => dotted rest'
      | none =>
        if isIdentifierLetter c then dotted (rest.dropWhile isIdentifierChar) else c :: rest

/-- What follows an optional build. -/
def afterBuild : List Char → List Char
  | '+' :: rest =>
    match afterBuildIdentifier? rest with
    | some rest' => afterDotted afterBuildIdentifier? rest'.length rest'
    | none => '+' :: rest
  | s => s

/-- What follows a concrete version of the loose dialect. -/
def afterLoose? (s : List Char) : Option (List Char) := do
  let (_, rest) ← takeNumber? .loose (s.dropWhile isVersionLead)
  let '.' :: rest := rest | none
  let (_, rest) ← takeNumber? .loose rest
  let '.' :: rest := rest | none
  let (_, rest) ← takeNumber? .loose rest
  some (afterBuild (afterPre .loose rest))

/-- What follows a dot and a further part of a pattern, if both are there. -/
def afterPart? : List Char → Option (List Char)
  | '.' :: rest => (takePart? .strict rest).map Prod.snd
  | _ => none

/-- What follows a pattern of the strict dialect. -/
def afterPattern? (s : List Char) : Option (List Char) := do
  let (_, rest) ← takePart? .strict (s.dropWhile isVersionLead)
  match afterPart? rest with
  | none => some rest
  | some rest =>
    match afterPart? rest with
    | none => some rest
    | some rest => some (afterBuild (afterPre .strict rest))

/-! ### Tidying -/

/-- Blanks between an operator and a version vanish. -/
def closeOperator (s : List Char) : Option (List Char × List Char) :=
  let (operator, rest) := takeOperator (trimStart s)
  let rest := trimStart rest
  let after? := match afterLoose? rest with
    | some after => some after
    | none => afterPattern? rest
  after?.map fun after =>
    (s.takeWhile isBlank ++ operator ++ rest.take (rest.length - after.length), after)

/-- Blanks after a tilde vanish, and so does a `>` between them. -/
def closeTilde (s : List Char) : Option (List Char × List Char) :=
  let closed := fun rest : List Char =>
    match rest with
    | b :: rest => if isBlank b then some (s.takeWhile isBlank ++ ['~'], trimStart rest) else none
    | [] => none
  match trimStart s with
  | '~' :: '>' :: rest => closed rest
  | '~' :: rest => closed rest
  | _ => none

/-- Blanks after a caret vanish. -/
def closeCaret (s : List Char) : Option (List Char × List Char) :=
  match trimStart s with
  | '^' :: b :: rest =>
    if isBlank b then some (s.takeWhile isBlank ++ ['^'], trimStart rest) else none
  | _ => none

/-- The pieces of one alternative of a range. -/
def pieces? (d : Dialect) (s : List Char) : Option (List (List Char)) := do
  let s ← expandHyphen? d s
  some (words (substitute closeCaret (substitute closeTilde (substitute closeOperator s))))

/-! ### Expansion -/

/-- Treats every word of a text, and joins the results with blanks. -/
def mapWords? (f : List Char → Option (List Char)) (s : List Char) : Option (List Char) :=
  ((words (trim s)).mapM f).map (join [' '])

/-- The caret keeps the leftmost number that is not zero. -/
def caret? (p : Pattern) : Option (List Char) :=
  let minor := part p.minor
  let patch := part p.patch
  if isWildcard p.major then some []
  else if Pattern.isOpen p.minor then do
    some (both (atLeast p.major zero zero none) (below (← successor? p.major) zero zero))
  else if Pattern.isOpen p.patch then do
    if p.major = zero then
      some (both (atLeast p.major minor zero none) (below p.major (← successor? minor) zero))
    else some (both (atLeast p.major minor zero none) (below (← successor? p.major) zero zero))
  else do
    let lower := atLeast p.major minor patch p.pre
    if p.major = zero then
      if minor = zero then some (both lower (below p.major minor (← successor? patch)))
      else some (both lower (below p.major (← successor? minor) zero))
    else some (both lower (below (← successor? p.major) zero zero))

/-- The tilde keeps the first two numbers, or the first if it stands alone. -/
def tilde? (p : Pattern) : Option (List Char) :=
  let minor := part p.minor
  if isWildcard p.major then some []
  else if Pattern.isOpen p.minor then do
    some (both (atLeast p.major zero zero none) (below (← successor? p.major) zero zero))
  else do
    let patch := if Pattern.isOpen p.patch then zero else part p.patch
    let pre := if Pattern.isOpen p.patch then none else p.pre
    some (both (atLeast p.major minor patch pre) (below p.major (← successor? minor) zero))

/-- A pattern with open parts, after an operator: open parts count as zero, and an operator that
leaves the line out is moved to the next line. -/
def wildcardAfter? (operator : List Char) (p : Pattern) : Option (List Char) :=
  let minorOpen := Pattern.isOpen p.minor
  let minor := if minorOpen then zero else part p.minor
  let next? : Option (List Char × List Char) :=
    if minorOpen then (successor? p.major).map (·, zero)
    else (successor? minor).map (p.major, ·)
  if operator = ['>'] then do
    let (major, minor) ← next?
    some ('>' :: '=' :: triple major minor zero)
  else if operator = ['<', '='] then do
    let (major, minor) ← next?
    some ('<' :: triple major minor zero)
  else some (operator ++ triple p.major minor zero)

/-- A pattern with open parts stands for the line that it names; `text` is the pattern as
written, which stays if no part is open. -/
def wildcard? (text operator : List Char) (p : Pattern) : Option (List Char) :=
  if isWildcard p.major then
    some (if operator = ['>'] ∨ operator = ['<'] then '<' :: triple zero zero zero else ['*'])
  else if !Pattern.isOpen p.minor && !Pattern.isOpen p.patch then some text
  else if operator ≠ [] ∧ operator ≠ ['='] then wildcardAfter? operator p
  else tilde? { p with pre := none }

/-- Expands the carets of a text. -/
def expandCarets? (d : Dialect) : List Char → Option (List Char) :=
  mapWords? fun word =>
    match word with
    | '^' :: rest =>
      match Pattern.read? d rest with
      | some p => caret? p
      | none => some word
    | _ => some word

/-- Expands the tildes of a text. -/
def expandTildes? (d : Dialect) : List Char → Option (List Char) :=
  mapWords? fun word =>
    let expand := fun rest : List Char =>
      match Pattern.read? d rest with
      | some p => tilde? p
      | none => some word
    match word with
    | '~' :: '>' :: rest => expand rest
    | '~' :: rest => expand rest
    | _ => some word

/-- Expands the wildcards of a text. -/
def expandWildcards? (d : Dialect) : List Char → Option (List Char) :=
  mapWords? fun word =>
    let (operator, rest) := takeOperator word
    match Pattern.read? d rest with
    | some p => wildcard? word operator p
    | none => some word

/-- A star and the operator and blanks before it mean nothing. -/
def dropStar (s : List Char) : Option (List Char × List Char) :=
  match trimStart (takeOperator s).2 with
  | '*' :: rest => some ([], rest)
  | _ => none

/-- Expands one piece. -/
def expand? (d : Dialect) (s : List Char) : Option (List Char) := do
  let s ← expandCarets? d s
  let s ← expandTildes? d s
  let s ← expandWildcards? d s
  some (substitute dropStar (trim s))

/-- The texts of the comparators of one alternative. -/
def comparators? (d : Dialect) (s : List Char) : Option (List (List Char)) := do
  let expanded ← (← pieces? d (trim s)).mapM (expand? d)
  some (words (join [' '] expanded))

end PluginOrder.Shorthand
