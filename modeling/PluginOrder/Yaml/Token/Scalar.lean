import PluginOrder.Yaml.Cursor
import PluginOrder.Yaml.Fault

/-!
# Scalars

A scalar is plain, stands between quotes, or is a block of lines.  Lines of a plain or quoted
scalar are folded: a single line break counts as a space, and of several the first one is dropped.
In a block the lines are kept, or folded if neither of the two lines begins with a blank.

Every loop here takes at least one character per turn, so the number of characters that are left
is fuel enough.
-/

namespace PluginOrder.Yaml

open Text (CodePoint)

/-- A part of a document that was read, and the place after it. -/
abbrev Reading (α : Type) := α × Cursor

/-- What line breaks stand for: the first one, as it counts, and those that follow it. -/
def foldBreaks (first : Char) (others : List Char) : List Char :=
  if first = '\n' then (if others.isEmpty then [' '] else others) else first :: others

/-! ### Plain scalars -/

/-- Whether a character ends a plain scalar inside brackets. -/
def isFlowMark (c : Char) : Bool := c == ',' || c == '[' || c == ']' || c == '\x7b' || c == '\x7d'

/-- The run of characters of a plain scalar up to a gap, a colon that stands for itself, or inside
brackets a character that means something there. -/
def takePlain (flow : Bool) : List Char → List Char
  | [] => []
  | c :: rest =>
    if isGap (some c) || (c == ':' && (isGap rest.head? || (flow && rest.head?.any isFlowMark))) ||
        (flow && (c == '?' || isFlowMark c)) then []
    else c :: takePlain flow rest

/-- The blanks after a run of a plain scalar. -/
structure PlainGap where
  /-- What they stand for if the scalar goes on, nothing if it cannot. -/
  text : List Char
  /-- Whether there is a line break among them. -/
  broken : Bool
  cursor : Cursor

/-- Skips spaces and line breaks, which are kept; nothing is kept if a document marker follows. -/
def plainBreaks : Nat → Cursor → Option (List Char) × Cursor
  | 0, c => (some [], c)
  | fuel + 1, c =>
    let c := c.skipSpaces
    match c.takeBreak? with
    | none => (some [], c)
    | some (first, c) =>
      if c.atDocumentMarker then (none, c)
      else
        let (others, c) := plainBreaks fuel c
        (others.map (first :: ·), c)

/-- Skips the blanks after a run of a plain scalar. -/
def plainGap (c : Cursor) : PlainGap :=
  let (spaces, c) := c.span (· == ' ')
  match c.takeBreak? with
  | none => ⟨spaces, false, c⟩
  | some (first, c) =>
    if c.atDocumentMarker then ⟨[], true, c⟩
    else
      match plainBreaks c.rest.length c with
      | (none, c) => ⟨[], true, c⟩
      | (some others, c) => ⟨foldBreaks first others, true, c⟩

/-- A plain scalar that was read. -/
structure PlainScalar where
  text : List Char
  /-- Whether a line break was skipped after it. -/
  broken : Bool
  cursor : Cursor

/-- Reads a plain scalar on, after the blanks in `gap`.  Outside brackets its lines must reach the
column `indent`. -/
def readPlainFrom (flow : Bool) (indent : Nat) : Nat → PlainGap → PlainScalar
  | 0, gap => ⟨[], gap.broken, gap.cursor⟩
  | fuel + 1, gap =>
    let run := if gap.cursor.peek == some '#' then [] else takePlain flow gap.cursor.rest
    if run.isEmpty then ⟨[], gap.broken, gap.cursor⟩
    else
      let following := plainGap (gap.cursor.skip run.length)
      let c := following.cursor
      if following.text.isEmpty || c.peek == some '#' || (!flow && c.column < indent) then
        ⟨gap.text ++ run, following.broken, c⟩
      else
        let more := readPlainFrom flow indent fuel following
        { more with text := gap.text ++ run ++ more.text }

/-- Reads a plain scalar. -/
def readPlain (flow : Bool) (indent : Nat) (c : Cursor) : PlainScalar :=
  readPlainFrom flow indent c.rest.length ⟨[], false, c⟩

/-! ### Scalars in quotes -/

/-- Skips blanks after a line break in quotes and keeps the line breaks among them.  A document
marker must not follow a line break. -/
def quotedBreaks : Nat → Cursor → Except Fault (Reading (List Char))
  | 0, c => .ok ([], c)
  | fuel + 1, c =>
    if c.atDocumentMarker then .error .malformed
    else
      let c := c.skipWhile fun ch => ch == ' ' || ch == '\t'
      match c.takeBreak? with
      | none => .ok ([], c)
      | some (first, c) => do
        let (others, c) ← quotedBreaks fuel c
        .ok (first :: others, c)

/-- Reads blanks in quotes. -/
def quotedBlanks (c : Cursor) : Except Fault (Reading (List Char)) :=
  let (blanks, c) := c.span fun ch => ch == ' ' || ch == '\t'
  match c.takeBreak? with
  | some (first, c) => do
    let (others, c) ← quotedBreaks (c.rest.length + 1) c
    .ok (foldBreaks first others, c)
  | none => .ok (blanks, c)

/-- The character that another one stands for after a backslash. -/
def escapedChar? : Char → Option Char
  | '0' => some '\x00'
  | 'a' => some '\x07'
  | 'b' => some '\x08'
  | 't' => some '\t'
  | '\t' => some '\t'
  | 'n' => some '\n'
  | 'v' => some '\x0b'
  | 'f' => some '\x0c'
  | 'r' => some '\r'
  | 'e' => some '\x1b'
  | ' ' => some ' '
  | '\x22' => some '\x22'
  | '\\' => some '\\'
  | '/' => some '/'
  | 'N' => some '\x85'
  | '_' => some '\u00a0'
  | 'L' => some '\u2028'
  | 'P' => some '\u2029'
  | _ => none

/-- The number of hexadecimal digits after a letter behind a backslash. -/
def escapeWidth? : Char → Option Nat
  | 'x' => some 2
  | 'u' => some 4
  | 'U' => some 8
  | _ => none

/-- The code point that a number in an escape stands for. -/
def pointOfCode (code : Nat) : Except Fault CodePoint :=
  if code < 0x110000 then .ok (.ofNat code) else .error (.notCodePoint code)

/-- Reads what follows a backslash. -/
def readEscape (c : Cursor) : Except Fault (Reading (List CodePoint)) :=
  match c.peek with
  | none => .error .malformed
  | some ch =>
    match escapedChar? ch, escapeWidth? ch with
    | some image, _ => .ok ([.char image], c.next)
    | none, some width =>
      match (c.next.rest.take width).mapM Text.hexValue? with
      | some digits =>
        if digits.length = width then do
          let image ← pointOfCode (Text.numberOfDigits 16 digits)
          .ok ([image], c.next.skip width)
        else .error .malformed
      | none => .error .malformed
    | none, none =>
      match c.takeBreak? with
      | some (_, c) => do
        let (breaks, c) ← quotedBreaks (c.rest.length + 1) c
        .ok (CodePoint.ofChars breaks, c)
      | none => .error .malformed

/-- Reads a quoted scalar on, up to its closing quote. -/
def readQuotedFrom (quote : Char) : Nat → Cursor → Except Fault (Reading (List CodePoint))
  | 0, _ => .error .malformed
  | fuel + 1, c =>
    match c.peek with
    | none => .error .malformed
    | some ch =>
      if isGap (some ch) then do
        let (front, c) ← quotedBlanks c
        let (back, c) ← readQuotedFrom quote fuel c
        .ok (CodePoint.ofChars front ++ back, c)
      else if ch = quote then
        if quote = Text.singleQuote ∧ c.peekAt 1 = some quote then do
          let (back, c) ← readQuotedFrom quote fuel (c.skip 2)
          .ok (.char quote :: back, c)
        else .ok ([], c.next)
      else if ch = '\\' ∧ quote = Text.doubleQuote then do
        let (front, c) ← readEscape c.next
        let (back, c) ← readQuotedFrom quote fuel c
        .ok (front ++ back, c)
      else do
        let (back, c) ← readQuotedFrom quote fuel c.next
        .ok (.char ch :: back, c)

/-- Reads a scalar in quotes. -/
def readQuoted (quote : Char) (c : Cursor) : Except Fault (Reading (List CodePoint)) :=
  readQuotedFrom quote c.rest.length c.next

/-! ### Blocks of lines -/

/-- What happens to the line breaks at the end of a block. -/
inductive Chomping where
  /-- All are dropped. -/
  | strip
  /-- One is kept. -/
  | clip
  /-- All are kept. -/
  | keep
  deriving DecidableEq, Repr

/-- The first line of a block scalar: what happens to its end, and how far it is indented. -/
structure BlockHeader where
  chomping : Chomping
  increment : Option Nat

/-- The treatment of the end that a character asks for. -/
def chomping? : Option Char → Option Chomping
  | some '+' => some .keep
  | some '-' => some .strip
  | _ => none

/-- The digit that follows. -/
def digit? : Option Char → Option Nat
  | some ch => if Text.isAsciiDigit ch then some (ch.toNat - 48) else none
  | none => none

/-- Reads the marks of a block scalar, in either order. -/
def readBlockMarks (c : Cursor) : BlockHeader × Cursor :=
  match chomping? c.peek with
  | some chomping =>
    match digit? c.next.peek with
    | some n => (⟨chomping, some n⟩, c.skip 2)
    | none => (⟨chomping, none⟩, c.next)
  | none =>
    match digit? c.peek with
    | some n =>
      match chomping? c.next.peek with
      | some chomping => (⟨chomping, some n⟩, c.skip 2)
      | none => (⟨.clip, some n⟩, c.next)
    | none => (⟨.clip, none⟩, c)

/-- Skips the rest of a line, which can only hold spaces and a comment. -/
def readLineEnd (c : Cursor) : Except Fault Cursor :=
  let c := c.skipSpaces.skipComment
  match c.takeBreak? with
  | some (_, c) => .ok c
  | none => if c.peek.isNone then .ok c else .error .malformed

/-- Reads the first line of a block scalar. -/
def readBlockHeader (c : Cursor) : Except Fault (Reading BlockHeader) := do
  let (header, c) := readBlockMarks c
  if header.increment == some 0 || !isSpaceOrEnd c.peek then .error .malformed
  else .ok (header, ← readLineEnd c)

/-- The line breaks in front of a block, the column of its furthest space, and where it begins. -/
def blockOpening : Nat → Nat → Cursor → List Char × Nat × Cursor
  | 0, column, c => ([], column, c)
  | fuel + 1, column, c =>
    let c := c.skipSpaces
    let column := max column c.column
    match c.takeBreak? with
    | none => ([], column, c)
    | some (first, c) =>
      let (others, column, c) := blockOpening fuel column c
      (first :: others, column, c)

/-- The line breaks of empty lines, and the place after them and after the indentation. -/
def blockBreaks (indent : Nat) : Nat → Cursor → List Char × Cursor
  | 0, c => ([], c)
  | fuel + 1, c =>
    let c := c.skipIndent indent
    match c.takeBreak? with
    | none => ([], c)
    | some (first, c) =>
      let (others, c) := blockBreaks indent fuel c
      (first :: others, c)

/-- The lines of a block. -/
structure BlockLines where
  text : List Char
  /-- The line break of the last line, if it has one. -/
  lastBreak : List Char
  /-- The line breaks of the empty lines after it. -/
  breaks : List Char
  cursor : Cursor

/-- Whether a place begins with a blank. -/
def startsWithBlank (c : Cursor) : Bool := c.peek == some ' ' || c.peek == some '\t'

/-- Reads the lines of a block on; `breaks` are those of the empty lines before. -/
def blockLines (folded : Bool) (indent : Nat) : Nat → List Char → Cursor → BlockLines
  | 0, breaks, c => ⟨[], [], breaks, c⟩
  | fuel + 1, breaks, c =>
    if c.column == indent && c.peek.isSome then
      let (line, rest) := c.span (!isBreak ·)
      let (lastBreak, rest) := match rest.takeBreak? with
        | some (ch, rest) => ([ch], rest)
        | none => ([], rest)
      let (empty, rest) := blockBreaks indent rest.rest.length rest
      let goesOn := rest.column == indent && rest.peek.isSome
      let joint :=
        if !goesOn then []
        else if folded && lastBreak == ['\n'] && !startsWithBlank c && !startsWithBlank rest then
          (if empty.isEmpty then [' '] else [])
        else lastBreak
      if goesOn then
        let more := blockLines folded indent fuel empty rest
        { more with text := breaks ++ line ++ joint ++ more.text }
      else ⟨breaks ++ line, lastBreak, empty, rest⟩
    else ⟨[], [], breaks, c⟩

/-- Reads a block scalar.  Its lines begin right of the column `indent - 1`. -/
def readBlock (folded : Bool) (indent : Nat) (c : Cursor) : Except Fault (Reading (List Char)) := do
  let (header, c) ← readBlockHeader c.next
  let least := max indent 1
  let (breaks, column, c) := match header.increment with
    | none =>
      let (breaks, furthest, c) := blockOpening c.rest.length 0 c
      (breaks, max least furthest, c)
    | some increment =>
      let column := least + increment - 1
      let (breaks, c) := blockBreaks column c.rest.length c
      (breaks, column, c)
  let lines := blockLines folded column (c.rest.length + 1) breaks c
  let ending := match header.chomping with
    | .strip => []
    | .clip => lines.lastBreak
    | .keep => lines.lastBreak ++ lines.breaks
  .ok (lines.text ++ ending, lines.cursor)

end PluginOrder.Yaml
