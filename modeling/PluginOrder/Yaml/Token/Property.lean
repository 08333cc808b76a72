import PluginOrder.Text.Utf8
import PluginOrder.Yaml.Token
import PluginOrder.Yaml.Token.Scalar

/-!
# Anchors, tags and directives

An anchor names a node, a tag says what it is, and a directive stands in front of a document.
-/

namespace PluginOrder.Yaml

/-! ### Anchors -/

/-- Whether a place ends the name of an anchor. -/
def endsAnchor : Option Char → Bool
  | none => true
  | some c =>
    isGap (some c) || c == '?' || c == ':' || c == ',' || c == ']' || c == '\x7d' || c == '%' ||
      c == '@' || c == '\x60'

/-- Reads the name after the mark of an anchor or of a reference to one. -/
def readAnchor (c : Cursor) : Except Fault (Reading String) :=
  let (name, c) := c.next.span isNameChar
  if name.isEmpty || !endsAnchor c.peek then .error .malformed
  else .ok (String.ofList name, c)

/-! ### Tags -/

/-- The characters besides letters, digits, dashes and underscores that a tag may hold. -/
def tagPunctuation : List Char :=
  [';', '/', '?', ':', '@', '&', '=', '+', '$', ',', '.', '!', '~', '*', '\x27', '(', ')', '[',
    ']']

/-- Whether a character may stand in a tag as itself. -/
def isTagChar (c : Char) : Bool := isNameChar c || tagPunctuation.contains c

/-- Reads a run of octets, each of them a percent sign and two hexadecimal digits. -/
def readOctets : Nat → Cursor → Except Fault (Reading (List UInt8))
  | 0, c => .ok ([], c)
  | fuel + 1, c =>
    if c.peek == some '%' then
      match (c.next.rest.take 2).mapM Text.hexValue? with
      | some [a, b] => do
        let (others, c) ← readOctets fuel (c.skip 3)
        .ok (UInt8.ofNat (a * 16 + b) :: others, c)
      | _ => .error .malformed
    else .ok ([], c)

/-- Reads the characters of a tag. -/
def readTagCharsFrom : Nat → Cursor → Except Fault (Reading (List Char))
  | 0, c => .ok ([], c)
  | fuel + 1, c =>
    if c.peek == some '%' then do
      let (octets, c) ← readOctets c.rest.length c
      match Text.readUtf8 octets with
      | .error _ => .error .malformed
      | .ok front =>
        let (back, c) ← readTagCharsFrom fuel c
        .ok (front ++ back, c)
    else
      let (front, c) := c.span isTagChar
      if front.isEmpty then .ok ([], c)
      else do
        let (back, c) ← readTagCharsFrom fuel c
        .ok (front ++ back, c)

/-- Reads the characters of a tag, of which there must be one. -/
def readTagChars (c : Cursor) : Except Fault (Reading String) := do
  if c.peek.any fun ch => isTagChar ch || ch == '%' then
    let (chars, c) ← readTagCharsFrom c.rest.length c
    .ok (String.ofList chars, c)
  else .error .malformed

/-- Reads a handle: an exclamation mark, or a name between two of them.  The one in a directive
may also be followed by a space. -/
def readHandle (c : Cursor) : Except Fault (Reading String) :=
  if c.peek == some '!' then
    if c.peekAt 1 == some ' ' then .ok ("!", c.next)
    else
      let (name, c) := c.next.span isNameChar
      if c.peek == some '!' then .ok (String.ofList ('!' :: name ++ ['!']), c.next)
      else .error .malformed
  else .error .malformed

/-- Reads a tag without regard to what follows it. -/
def readTagText (c : Cursor) : Except Fault (Reading WrittenTag) :=
  if c.peekAt 1 == some '<' then do
    let (suffix, c) ← readTagChars (c.skip 2)
    if c.peek == some '>' then .ok (⟨none, suffix⟩, c.next) else .error .malformed
  else if isGap (c.peekAt 1) then .ok (⟨none, "!"⟩, c.next)
  else do
    let word := c.next.rest.takeWhile fun ch => !isSpaceOrEnd (some ch)
    let (handle, c) ← if word.contains '!' then readHandle c else .ok ("!", c.next)
    let (suffix, c) ← readTagChars c
    .ok (⟨some handle, suffix⟩, c)

/-- Reads a tag. -/
def readTag (c : Cursor) : Except Fault (Reading WrittenTag) := do
  let (tag, c) ← readTagText c
  if isSpaceOrEnd c.peek then .ok (tag, c) else .error .malformed

/-! ### Directives -/

/-- Reads a number of a version. -/
def readVersionPart (c : Cursor) : Except Fault (Reading Nat) :=
  let (digits, c) := c.span Text.isAsciiDigit
  if digits.isEmpty then .error .malformed
  else if digits.length > Text.maxDigits then .error (.oversizedNumeral digits.length)
  else .ok (Text.numberOfDigits 10 (digits.map fun ch => ch.toNat - 48), c)

/-- Reads what a directive of a name says. -/
def readDirectiveBody (name : String) (c : Cursor) : Except Fault (Reading Directive) :=
  if name = "YAML" then do
    let (major, c) ← readVersionPart c.skipSpaces
    if c.peek == some '.' then
      let (_, c) ← readVersionPart c.next
      if isSpaceOrEnd c.peek then .ok (.version major, c) else .error .malformed
    else .error .malformed
  else if name = "TAG" then do
    let (handle, c) ← readHandle c.skipSpaces
    if c.peek == some ' ' then
      let (start, c) ← readTagChars c.skipSpaces
      if isSpaceOrEnd c.peek then .ok (.tag handle start, c) else .error .malformed
    else .error .malformed
  else .ok (.unknown, c.skipWhile (!isBreak ·))

/-- Reads a directive and the rest of its line. -/
def readDirective (c : Cursor) : Except Fault (Reading Directive) := do
  let (name, c) := c.next.span isNameChar
  if name.isEmpty || !isSpaceOrEnd c.peek then .error .malformed
  else
    let (directive, c) ← readDirectiveBody (String.ofList name) c
    .ok (directive, ← readLineEnd c)

end PluginOrder.Yaml
