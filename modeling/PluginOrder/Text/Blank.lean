/-!
# Blank characters

The 29 characters that separate words: the Unicode white space and the four information
separators U+001C to U+001F.  Texts are lists of characters here, and this file says how blanks
are trimmed from their ends and how a text falls into words.
-/

namespace PluginOrder.Text

/-- Whether a character is white space or an information separator. -/
def isBlank (c : Char) : Bool :=
  let n := c.toNat
  (9 ≤ n && n ≤ 13) || (28 ≤ n && n ≤ 32) || n == 0x85 || n == 0xa0 || n == 0x1680 ||
    (0x2000 ≤ n && n ≤ 0x200a) || n == 0x2028 || n == 0x2029 || n == 0x202f || n == 0x205f ||
    n == 0x3000

/-- The text without its leading blanks. -/
def trimStart (s : List Char) : List Char := s.dropWhile isBlank

/-- The text without its trailing blanks. -/
def trimEnd (s : List Char) : List Char := (s.reverse.dropWhile isBlank).reverse

/-- The text without the blanks at its ends. -/
def trim (s : List Char) : List Char := trimEnd (trimStart s)

/-- Puts an element before the first piece. -/
def consHead {α : Type} (c : α) : List (List α) → List (List α)
  | [] => [[c]]
  | piece :: rest => (c :: piece) :: rest

/-- Splits a text at its runs of blanks.  A run at an end leaves an empty piece there, and the
empty text is one empty piece. -/
def words : List Char → List (List Char)
  | [] => [[]]
  | [c] => if isBlank c then [[], []] else [[c]]
  | c :: d :: rest =>
    if isBlank c then
      if isBlank d then words (d :: rest) else [] :: words (d :: rest)
    else consHead c (words (d :: rest))

/-- Splits a text at every occurrence of an element. -/
def splitOn {α : Type} [DecidableEq α] (sep : α) : List α → List (List α)
  | [] => [[]]
  | c :: rest => if c = sep then [] :: splitOn sep rest else consHead c (splitOn sep rest)

/-- Joins pieces, with a separator between neighbours. -/
def join (sep : List Char) : List (List Char) → List Char
  | [] => []
  | [piece] => piece
  | piece :: rest => piece ++ sep ++ join sep rest

/-- The text before the first occurrence of a character, and the text after it if there is one. -/
def cut (sep : Char) : List Char → List Char × Option (List Char)
  | [] => ([], none)
  | c :: rest =>
    if c = sep then ([], some rest)
    else
      let (before, after) := cut sep rest
      (c :: before, after)

/-- Substitutes in a text from left to right.  At each position `rule` either refuses, and the
character there is kept, or gives what stands for a match and the text after it.  Every match
takes at least one character, so as many turns as there are characters are enough. -/
def substitute (rule : List Char → Option (List Char × List Char)) (s : List Char) : List Char :=
  turn s.length s
where
  /-- At most the given number of turns. -/
  turn : Nat → List Char → List Char
    | 0, s => s
    | _ + 1, [] => []
    | n + 1, c :: rest =>
      match rule (c :: rest) with
      | some (replacement, remaining) => replacement ++ turn n remaining
      | none => c :: turn n rest

end PluginOrder.Text
