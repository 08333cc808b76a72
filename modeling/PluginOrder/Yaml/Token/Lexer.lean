import PluginOrder.Yaml.Token.Property

/-!
# From text to tokens

The lexer takes one token at a time.  Outside brackets indentation nests: a block opens where a
list entry or a key stands further right than the block around it, and closes where a line begins
further left.

A key need not be marked.  Whether a node was one shows only at the colon after it, which must
follow on the same line and within 1024 characters; until then the node is kept in mind as a
candidate, one for each depth of brackets, and the colon puts the key token in front of it.  A node
that begins a line of a block of keys has to turn out to be a key.

A token that may still be a key cannot be used before that is known, so if the text turns out to be
broken first, the token and all behind it are lost.
-/

namespace PluginOrder.Yaml

/-- A node that may turn out to be a key. -/
structure Candidate where
  /-- The number of tokens in front of it. -/
  position : Nat
  /-- Whether it must be a key. -/
  required : Bool
  /-- Where it begins. -/
  index : Nat
  line : Nat
  column : Nat

/-- The state of the lexer. -/
structure Lexer where
  cursor : Cursor
  tokens : Array Token
  /-- The depth of brackets. -/
  depth : Nat
  /-- The columns of the open blocks, the innermost first. -/
  blocks : List Nat
  /-- Whether a key may begin here. -/
  keyAllowed : Bool
  /-- The candidates with their depths. -/
  candidates : List (Nat × Candidate)

namespace Lexer

/-- The lexer at the beginning of a text. -/
def start (text : List Char) : Lexer := ⟨.start text, #[], 0, [], true, []⟩

/-- The least column of what belongs to the innermost block. -/
def innerColumn (l : Lexer) : Nat :=
  match l.blocks with
  | [] => 0
  | column :: _ => column + 1

/-- Adds a token. -/
def push (l : Lexer) (token : Token) : Lexer := { l with tokens := l.tokens.push token }

/-- Adds a token and goes on behind it. -/
def pushAt (l : Lexer) (token : Token) (cursor : Cursor) : Lexer :=
  { l with tokens := l.tokens.push token, cursor }

/-! ### Blocks -/

/-- Closes the blocks to the right of a column. -/
def closeBlocksAt (column : Nat) : List Nat → Array Token → List Nat × Array Token
  | [], tokens => ([], tokens)
  | block :: rest, tokens =>
    if block > column then closeBlocksAt column rest (tokens.push .blockEnd)
    else (block :: rest, tokens)

/-- Closes the blocks to the right of a column, outside brackets. -/
def unwind (l : Lexer) (column : Nat) : Lexer :=
  if l.depth ≠ 0 then l
  else
    let (blocks, tokens) := closeBlocksAt column l.blocks l.tokens
    { l with blocks, tokens }

/-- Closes all blocks, outside brackets. -/
def unwindAll (l : Lexer) : Lexer :=
  if l.depth ≠ 0 then l
  else { l with
    blocks := []
    tokens := l.tokens ++ Array.replicate l.blocks.length .blockEnd }

/-- Whether a block opens at a column. -/
def opensBlock (l : Lexer) (column : Nat) : Bool := l.innerColumn ≤ column

/-- Opens a block here, if one opens. -/
def openBlock (l : Lexer) (token : Token) : Lexer :=
  if l.opensBlock l.cursor.column then
    { l with blocks := l.cursor.column :: l.blocks, tokens := l.tokens.push token }
  else l

/-! ### Candidates -/

/-- The candidate at this depth. -/
def candidate? (l : Lexer) : Option Candidate := l.candidates.lookup l.depth

/-- Drops the candidate at this depth, unless it must be a key. -/
def dropCandidate (l : Lexer) : Except Fault Lexer :=
  if l.candidate?.any (·.required) then .error .malformed
  else .ok { l with candidates := l.candidates.filter fun entry => entry.1 ≠ l.depth }

/-- Whether no colon can follow a candidate any more. -/
def isStale (l : Lexer) (k : Candidate) : Bool :=
  k.line != l.cursor.line || l.cursor.index > k.index + 1024

/-- Drops the candidates that no colon can follow any more, unless one must be a key. -/
def dropStale (l : Lexer) : Except Fault Lexer :=
  if l.candidates.any fun entry => l.isStale entry.2 && entry.2.required then .error .malformed
  else .ok { l with candidates := l.candidates.filter fun entry => !l.isStale entry.2 }

/-- Takes the node that begins here as a candidate, if a key may begin here. -/
def addCandidate (l : Lexer) : Except Fault Lexer :=
  if l.keyAllowed then do
    let required := l.depth == 0 && l.blocks.head? == some l.cursor.column
    let l ← l.dropCandidate
    .ok { l with
      candidates := (l.depth, ⟨l.tokens.size, required, l.cursor.index, l.cursor.line,
        l.cursor.column⟩) :: l.candidates }
  else .ok l

/-! ### Tokens -/

/-- The end of the text. -/
def readEnd (l : Lexer) : Except Fault Lexer := do
  let l ← l.unwindAll.dropCandidate
  .ok (l.push .streamEnd)

/-- A directive. -/
def readDirectiveToken (l : Lexer) : Except Fault Lexer := do
  let l ← l.unwindAll.dropCandidate
  let (directive, cursor) ← readDirective l.cursor
  .ok ({ l with keyAllowed := false }.pushAt (.directive directive) cursor)

/-- A marker of the start or the end of a document. -/
def readMarker (l : Lexer) (token : Token) : Except Fault Lexer := do
  let l ← l.unwindAll.dropCandidate
  .ok ({ l with keyAllowed := false }.pushAt token (l.cursor.skip 3))

/-- An opening bracket. -/
def readOpening (l : Lexer) (token : Token) : Except Fault Lexer := do
  let l ← l.addCandidate
  .ok ({ l with depth := l.depth + 1, keyAllowed := true }.pushAt token l.cursor.next)

/-- A closing bracket. -/
def readClosing (l : Lexer) (token : Token) : Except Fault Lexer := do
  let l ← l.dropCandidate
  .ok ({ l with depth := l.depth - 1, keyAllowed := false }.pushAt token l.cursor.next)

/-- A comma. -/
def readEntry (l : Lexer) : Except Fault Lexer := do
  let l ← l.dropCandidate
  .ok ({ l with keyAllowed := true }.pushAt .entry l.cursor.next)

/-- A dash in front of an entry of a list. -/
def readBlockEntry (l : Lexer) : Except Fault Lexer :=
  if l.depth = 0 ∧ !l.keyAllowed then .error .malformed
  else do
    let l := if l.depth = 0 then l.openBlock .blockListStart else l
    let l ← l.dropCandidate
    .ok ({ l with keyAllowed := true }.pushAt .blockEntry l.cursor.next)

/-- A question mark in front of a key. -/
def readKey (l : Lexer) : Except Fault Lexer :=
  if l.depth = 0 ∧ !l.keyAllowed then .error .malformed
  else do
    let l := if l.depth = 0 then l.openBlock .blockMapStart else l
    let l ← l.dropCandidate
    .ok ({ l with keyAllowed := l.depth == 0 }.pushAt .key l.cursor.next)

/-- Makes a candidate a key, and opens a block of keys if one opens there. -/
def confirmKey (l : Lexer) (k : Candidate) : Lexer :=
  let opens := l.depth == 0 && l.opensBlock k.column
  { l with
    candidates := l.candidates.filter fun entry => entry.1 ≠ l.depth
    blocks := if opens then k.column :: l.blocks else l.blocks
    tokens := l.tokens.extract 0 k.position ++
      (if opens then #[.blockMapStart, .key] else #[.key]) ++ l.tokens.extract k.position
    keyAllowed := false }

/-- A colon in front of a value. -/
def readValue (l : Lexer) : Except Fault Lexer :=
  match l.candidate? with
  | some k => .ok ((l.confirmKey k).pushAt .value l.cursor.next)
  | none =>
    if l.depth = 0 ∧ !l.keyAllowed then .error .malformed
    else
      let l := if l.depth = 0 then l.openBlock .blockMapStart else l
      .ok ({ l with keyAllowed := l.depth == 0 }.pushAt .value l.cursor.next)

/-- An anchor, a reference, a tag or a quoted scalar, read by `read`. -/
def readNode {α : Type} (l : Lexer) (token : α → Token)
    (read : Cursor → Except Fault (Reading α)) : Except Fault Lexer := do
  let l ← l.addCandidate
  let (content, cursor) ← read l.cursor
  .ok ({ l with keyAllowed := false }.pushAt (token content) cursor)

/-- The token of a scalar that consists of characters. -/
def scalarToken (plain : Bool) (text : List Char) : Token :=
  .scalar (Text.CodePoint.ofChars text) plain

/-- A block of lines. -/
def readBlockScalar (l : Lexer) (folded : Bool) : Except Fault Lexer := do
  let l ← l.dropCandidate
  let (text, cursor) ← readBlock folded l.innerColumn l.cursor
  .ok ({ l with keyAllowed := true }.pushAt (scalarToken false text) cursor)

/-- A plain scalar.  After a line break a key may begin. -/
def readPlainScalar (l : Lexer) : Except Fault Lexer := do
  let l ← l.addCandidate
  let scalar := readPlain (l.depth != 0) l.innerColumn l.cursor
  .ok ({ l with keyAllowed := scalar.broken }.pushAt (scalarToken true scalar.text)
    scalar.cursor)

/-- Characters that can begin no plain scalar, or only before something that is no gap. -/
def indicators : List Char :=
  ['-', '?', ':', ',', '[', ']', '\x7b', '\x7d', '#', '&', '*', '!', '|', '>', '\x27', '\x22',
    '%', '@', '\x60']

/-- Whether a plain scalar begins with a character in front of another one. -/
def beginsPlain (inBrackets : Bool) (c : Char) (after : Option Char) : Bool :=
  (!isGap (some c) && !indicators.contains c) ||
    (!isGap after && (c == '-' || (!inBrackets && (c == '?' || c == ':'))))

/-! ### Turns -/

/-- Skips spaces, comments and line breaks.  Outside brackets a key may begin after a line
break. -/
def skipToToken : Nat → Lexer → Lexer
  | 0, l => l
  | fuel + 1, l =>
    let c := l.cursor.skipSpaces.skipComment
    match c.takeBreak? with
    | none => { l with cursor := c }
    | some (_, c) =>
      skipToToken fuel { l with cursor := c, keyAllowed := l.keyAllowed || l.depth == 0 }

/-- Skips a byte order mark at the beginning of the text. -/
def skipMark (l : Lexer) : Lexer :=
  if l.cursor.index = 0 ∧ l.cursor.peek = some '\ufeff' then { l with cursor := l.cursor.next }
  else l

/-- Takes the token that begins with a character. -/
def readToken (l : Lexer) (c : Char) : Except Fault Lexer :=
  let after := l.cursor.peekAt 1
  let atLineStart := l.cursor.column == 0
  let inBrackets := l.depth != 0
  if c = '%' ∧ atLineStart then l.readDirectiveToken
  else if atLineStart ∧ l.cursor.startsWithMarker '-' then l.readMarker .documentStart
  else if atLineStart ∧ l.cursor.startsWithMarker '.' then l.readMarker .documentEnd
  else if c = '[' then l.readOpening .listStart
  else if c = '\x7b' then l.readOpening .mapStart
  else if c = ']' then l.readClosing .listEnd
  else if c = '\x7d' then l.readClosing .mapEnd
  else if c = ',' then l.readEntry
  else if c = '-' ∧ isGap after then l.readBlockEntry
  else if c = '?' ∧ (inBrackets ∨ isGap after) then l.readKey
  else if c = ':' ∧ (inBrackets ∨ isGap after) then l.readValue
  else if c = '*' then l.readNode .reference readAnchor
  else if c = '&' then l.readNode .anchor readAnchor
  else if c = '!' then l.readNode .tag readTag
  else if c = '|' ∧ !inBrackets then l.readBlockScalar false
  else if c = '>' ∧ !inBrackets then l.readBlockScalar true
  else if c = Text.singleQuote ∨ c = Text.doubleQuote then
    l.readNode (fun text => .scalar text false) (readQuoted c)
  else if beginsPlain inBrackets c after then l.readPlainScalar
  else .error .malformed

/-- Takes one token, or finds that none is left. -/
def turn (l : Lexer) : Except Fault (Lexer × Bool) := do
  let l := l.skipMark
  let l ← (l.skipToToken (l.cursor.rest.length + 1)).dropStale
  let l := l.unwind l.cursor.column
  match l.cursor.peek with
  | none => .ok (← l.readEnd, true)
  | some c => .ok (← l.readToken c, false)

/-- The tokens in front of all candidates. -/
def settled (l : Lexer) : Array Token :=
  let waiting := l.candidates.filter fun entry => !l.isStale entry.2
  l.tokens.take (waiting.foldl (fun n entry => min n entry.2.position) l.tokens.size)

/-- Takes tokens until none is left or the text is broken, which a last token tells. -/
def run : Nat → Lexer → Array Token
  | 0, l => l.tokens.push (.broken .malformed)
  | fuel + 1, l =>
    match l.turn with
    | .error fault => l.settled.push (.broken fault)
    | .ok (l, true) => l.tokens
    | .ok (l, false) => run fuel l

end Lexer

/-- The tokens of a text.  Every token takes at least one character, so the number of characters
bounds the number of turns. -/
def Token.ofText (text : List Char) : List Token :=
  ((Lexer.start text).run (text.length + 1)).toList

end PluginOrder.Yaml
