import PluginOrder.Value.Display
import PluginOrder.Yaml.Cursor
import PluginOrder.Yaml.Plain

/-!
# Writing YAML

Lists and maps are written as blocks, the entries of a list in a map without indentation.  A text
is plain if it would be read back as the same text, and otherwise quoted: singly if it is ASCII
and its line breaks have no spaces around them, doubly with escapes if not.

A line is folded at the first space past column 80.  The text is ASCII.
-/

namespace PluginOrder.Yaml

open Text

/-- The column after which lines are folded. -/
def lineWidth : Nat := 80

/-- A line break and the blanks up to a column. -/
def newLine (column : Nat) : List Char := '\n' :: List.replicate column ' '

/-! ### Which style -/

/-- Whether a character is a printable ASCII character or a line feed. -/
def isOrdinary (c : Char) : Bool := c == '\n' || (0x20 ≤ c.toNat && c.toNat ≤ 0x7e)

/-- Whether two neighbours stand in a text. -/
def hasPair (a b : Char) : List Char → Bool
  | c :: d :: rest => (c == a && d == b) || hasPair a b (d :: rest)
  | _ => false

/-- Whether a mark inside a text would be read as the end of a key or the start of a comment. -/
def hasInnerMark : List Char → Bool
  | c :: d :: rest =>
    (d == ':' && isGap rest.head?) || (d == '#' && isGap (some c)) || hasInnerMark (d :: rest)
  | _ => false

/-- Whether a text begins with something that is no plain scalar outside brackets. -/
def startsWithMark (s : List Char) : Bool :=
  match s with
  | [] => false
  | c :: rest =>
    ['#', ',', '[', ']', '\x7b', '\x7d', '&', '*', '!', '|', '>', '\x27', '\x22', '%', '@',
        '\x60'].contains c ||
      (['?', ':', '-'].contains c && isGap rest.head?) ||
      s.take 3 == ['-', '-', '-'] || s.take 3 == ['.', '.', '.']

/-- Whether a text has a space or a line break at one of its ends. -/
def hasBlankEnd (s : List Char) : Bool :=
  let isBlankEnd (c : Option Char) : Bool := c == some ' ' || c == some '\n'
  isBlankEnd s.head? || isBlankEnd s.getLast?

/-- Whether a text can be written plain and is read back as a text. -/
def allowsPlain (s : List Char) : Bool :=
  s.all isOrdinary && !s.contains '\n' && !hasBlankEnd s && !startsWithMark s && !hasInnerMark s &&
    Tag.suggestedBy s == .text

/-- Whether a text can be written between single quotes. -/
def allowsSingle (s : List Char) : Bool :=
  s.all isOrdinary && !hasPair ' ' '\n' s && !hasPair '\n' ' ' s

/-! ### The three styles -/

/-- Whether a space has other characters on both sides. -/
def isLoneSpace (before : Option Char) (rest : List Char) : Bool :=
  before.isSome && before != some ' ' && !rest.isEmpty && rest.head? != some ' '

/-- Writes a plain text on; `before` is the character written last. -/
def plainFrom (indent : Nat) : Nat → Option Char → List Char → List Char
  | _, _, [] => []
  | column, before, c :: rest =>
    if c = ' ' ∧ isLoneSpace before rest ∧ column > lineWidth then
      newLine indent ++ plainFrom indent indent (some c) rest
    else c :: plainFrom indent (column + 1) (some c) rest

/-- Writes the inside of single quotes on, and the closing quote.  A quote is written twice, and so
is the first of several line breaks. -/
def singleFrom (indent : Nat) : Nat → Option Char → List Char → List Char
  | _, _, [] => [singleQuote]
  | column, before, c :: rest =>
    if c = ' ' ∧ isLoneSpace before rest ∧ column > lineWidth then
      newLine indent ++ singleFrom indent indent (some c) rest
    else if c = '\n' then
      let breaks := if before = some '\n' then ['\n'] else ['\n', '\n']
      if rest.head? = some '\n' then breaks ++ singleFrom indent 0 (some c) rest
      else breaks ++ List.replicate indent ' ' ++ singleFrom indent indent (some c) rest
    else if c = singleQuote then c :: c :: singleFrom indent (column + 2) (some c) rest
    else c :: singleFrom indent (column + 1) (some c) rest

/-- The letter that stands for a character after a backslash. -/
def escapeLetter? : Char → Option Char
  | '\x00' => some '0'
  | '\x07' => some 'a'
  | '\x08' => some 'b'
  | '\t' => some 't'
  | '\n' => some 'n'
  | '\x0b' => some 'v'
  | '\x0c' => some 'f'
  | '\r' => some 'r'
  | '\x1b' => some 'e'
  | '\x22' => some '\x22'
  | '\\' => some '\\'
  | '\x85' => some 'N'
  | '\u00a0' => some '_'
  | '\u2028' => some 'L'
  | '\u2029' => some 'P'
  | _ => none

/-- A character between double quotes, if it cannot stand there as itself. -/
def escape? (c : Char) : Option (List Char) :=
  let n := c.toNat
  match escapeLetter? c with
  | some letter => some ['\\', letter]
  | none =>
    if 0x20 ≤ n ∧ n ≤ 0x7e then none
    else if n < 0x100 then some ('\\' :: 'x' :: (hex 2 n).map Char.toUpper)
    else if n < 0x10000 then some ('\\' :: 'u' :: (hex 4 n).map Char.toUpper)
    else some ('\\' :: 'U' :: (hex 8 n).map Char.toUpper)

/-- A folded line between double quotes: a space that begins the next line is escaped, and
`spaced` tells whether one does. -/
def doubleFold (indent : Nat) (spaced : Bool) : List Char :=
  '\\' :: newLine indent ++ if spaced then ['\\'] else []

/-- Writes the inside of double quotes on, and the closing quote.  A line is folded before a space
and next to an escape, but not at the ends of the text. -/
def doubleFrom (indent : Nat) : Nat → Bool → Bool → List Char → List Char
  | _, _, _, [] => [doubleQuote]
  | column, isFirst, afterEscape, c :: rest =>
    let isInner := !isFirst && !rest.isEmpty
    match escape? c with
    | some escape =>
      let spaced := rest.head? == some ' '
      if isInner && column + escape.length > lineWidth + 1 then
        escape ++ doubleFold indent spaced ++
          doubleFrom indent (if spaced then indent + 1 else indent) false true rest
      else escape ++ doubleFrom indent (column + escape.length) false true rest
    | none =>
      let spaced := c == ' '
      if isInner && (spaced || afterEscape) && column > lineWidth then
        doubleFold indent spaced ++
          c :: doubleFrom indent (if spaced then indent + 2 else indent + 1) false false rest
      else c :: doubleFrom indent (column + 1) false false rest

/-- A text that begins at a column, its further lines at another one. -/
def textAt (indent column : Nat) (s : String) : List Char :=
  let chars := s.toList
  if allowsPlain chars then plainFrom indent column none chars
  else if allowsSingle chars then singleQuote :: singleFrom indent (column + 1) none chars
  else doubleQuote :: doubleFrom indent (column + 1) true false chars

/-! ### Values -/

/-- The text of a double. -/
def decimalText (x : Float) : String :=
  let text := { documentFloat with infinity := ".inf", notANumber := ".nan" }.render x
  match text.splitOn "e" with
  | [digits, exponent] =>
    if digits.toList.contains '.' then text else digits ++ ".0e" ++ exponent
  | _ => text

/-- A value that is no list and no map, beginning at a column.  Kinds that only tags can tell are
written as texts. -/
def scalarAt (indent column : Nat) : Value → List Char
  | .null => "null".toList
  | .bool b => (if b then "true" else "false").toList
  | .int n => (toString n).toList
  | .float x => (decimalText x).toList
  | v => textAt indent column (v.display?.getD "")

mutual

/-- What follows a key that ends at a column, in a map at the column `indent`. -/
def afterKey (indent column : Nat) : Value → List Char
  | .list [] => " []".toList
  | .map [] => " \x7b\x7d".toList
  | .list (item :: rest) => newLine indent ++ items indent (item :: rest)
  | .map (entry :: rest) => newLine (indent + 2) ++ entries (indent + 2) (entry :: rest)
  | v => ' ' :: scalarAt (indent + 2) (column + 1) v

/-- What follows a dash in a list at the column `indent`. -/
def afterDash (indent : Nat) : Value → List Char
  | .list [] => " []".toList
  | .map [] => " \x7b\x7d".toList
  | .list (item :: rest) => ' ' :: items (indent + 2) (item :: rest)
  | .map (entry :: rest) => ' ' :: entries (indent + 2) (entry :: rest)
  | v => ' ' :: scalarAt (indent + 2) (indent + 2) v

/-- The items of a list at a column. -/
def items (indent : Nat) : List Value → List Char
  | [] => []
  | item :: rest =>
    '-' :: afterDash indent item ++ (if rest.isEmpty then [] else newLine indent) ++
      items indent rest

/-- The entries of a map at a column. -/
def entries (indent : Nat) : List (Value × Value) → List Char
  | [] => []
  | (key, value) :: rest =>
    let name := scalarAt 0 0 key
    name ++ ':' :: afterKey indent (indent + name.length + 1) value ++
      (if rest.isEmpty then [] else newLine indent) ++ entries indent rest

end

/-- The text of a value, without the line break at its end. -/
def render : Value → String
  | .list (item :: rest) => String.ofList (items 0 (item :: rest))
  | .map (entry :: rest) => String.ofList (entries 0 (entry :: rest))
  | .list [] => "[]"
  | .map [] => "\x7b\x7d"
  | v => String.ofList (scalarAt 0 0 v)

end PluginOrder.Yaml
