import PluginOrder.Value.Display

/-!
# Writing JSON

The text is ASCII: every other character is written by its code units.  A layout says what stands
between items and between a name and its value, and whether containers are spread over lines.
-/

namespace PluginOrder.Json

open Text

/-- How JSON is laid out. -/
structure Layout where
  /-- What stands between two items on one line. -/
  separator : String
  /-- The blanks by which each level is indented, if containers are spread over lines. -/
  indent : Option Nat

/-- Everything on one line. -/
def oneLine : Layout := ⟨", ", none⟩

/-- An item per line, each level indented by two blanks. -/
def indented : Layout := ⟨",", some 2⟩

/-- The code units of a character. -/
def codeUnits (c : Char) : List Nat :=
  let n := c.toNat
  if n < 0x10000 then [n]
  else [0xd800 + (n - 0x10000) / 0x400, 0xdc00 + (n - 0x10000) % 0x400]

/-- One character inside a string. -/
def escapeChar (c : Char) : List Char :=
  if c = '\x22' ∨ c = '\\' then ['\\', c]
  else if c = '\n' then ['\\', 'n']
  else if c = '\r' then ['\\', 'r']
  else if c = '\t' then ['\\', 't']
  else if c = '\x0c' then ['\\', 'f']
  else if c = '\x08' then ['\\', 'b']
  else if 0x20 ≤ c.toNat ∧ c.toNat < 0x7f then [c]
  else (codeUnits c).flatMap fun unit => '\\' :: 'u' :: hex 4 unit

/-- A string with its quotes. -/
def string (s : String) : String :=
  String.ofList ('\x22' :: s.toList.flatMap escapeChar ++ ['\x22'])

/-- A string of code points with its quotes.  Half of a surrogate pair is a code unit. -/
def stringOfPoints (points : List CodePoint) : String :=
  let escapePoint : CodePoint → List Char
    | .char c => escapeChar c
    | .half code => '\\' :: 'u' :: hex 4 code
  String.ofList ('\x22' :: points.flatMap escapePoint ++ ['\x22'])

/-- A double, with the names that JSON readers take for infinity and for what is no number. -/
def number (x : Float) : String :=
  { documentFloat with infinity := "Infinity", notANumber := "NaN" }.render x

/-- The text of a value that may stand as a name. -/
def name : Value → String
  | .text s => s
  | .null => "null"
  | .bool b => if b then "true" else "false"
  | .float x => number x
  | v => v.display?.getD ""

/-- A line break and the blanks of a level, if containers are spread over lines. -/
def Layout.lineBreak (layout : Layout) (level : Nat) : String :=
  match layout.indent with
  | none => ""
  | some width => String.ofList ('\n' :: List.replicate (width * level) ' ')

/-- Items between brackets, at a level. -/
def Layout.enclose (layout : Layout) (level : Nat) (opening closing : String)
    (items : List String) : String :=
  if items.isEmpty then opening ++ closing
  else
    opening ++ layout.lineBreak (level + 1) ++
      joinTexts (layout.separator ++ layout.lineBreak (level + 1)) items ++
      layout.lineBreak level ++ closing

mutual

/-- A value at a level. -/
def Layout.value (layout : Layout) (level : Nat) : Value → String
  | .null | .shared _ => "null"
  | .bool b => if b then "true" else "false"
  | .int n => toString n
  | .float x => number x
  | .text s => string s
  | .illFormed points => stringOfPoints points
  | .octets bytes => string (literalOfOctets bytes)
  | .date d => string d.display
  | .moment m => string m.display
  | .list items => layout.enclose level "[" "]" (layout.items (level + 1) items)
  | .set members => layout.enclose level "[" "]" (layout.items (level + 1) members)
  | .pair key value =>
    layout.enclose level "[" "]" [layout.value (level + 1) key, layout.value (level + 1) value]
  | .map entries => layout.enclose level "\x7b" "\x7d" (layout.members (level + 1) entries)

/-- The items of a list at a level. -/
def Layout.items (layout : Layout) (level : Nat) : List Value → List String
  | [] => []
  | item :: rest => layout.value level item :: layout.items level rest

/-- The members of an object at a level. -/
def Layout.members (layout : Layout) (level : Nat) : List (Value × Value) → List String
  | [] => []
  | (key, value) :: rest =>
    (string (name key) ++ ": " ++ layout.value level value) :: layout.members level rest

end

/-- The text of a value in a layout. -/
def render (layout : Layout) (v : Value) : String := layout.value 0 v

end PluginOrder.Json
