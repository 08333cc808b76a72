import PluginOrder.Text.Case

/-!
# Code points

An escape in a document can name a code point that is half of a surrogate pair.  Such a half is no
character, so a text that may hold one is a list of code points.  Two halves that stand next to
each other stay two: whether they make a character is for the reader of a format to decide.
-/

namespace PluginOrder.Text

/-- A code point: a character, or half of a surrogate pair on its own. -/
inductive CodePoint where
  | char (c : Char)
  | half (code : Nat)
  deriving DecidableEq, Repr

namespace CodePoint

/-- The code point with a number. -/
def ofNat (n : Nat) : CodePoint :=
  if 0xd800 ≤ n ∧ n < 0xe000 then .half n else .char (Char.ofNat n)

/-- The character that a code point is. -/
def char? : CodePoint → Option Char
  | .char c => some c
  | .half _ => none

/-- Characters as code points. -/
def ofChars (s : List Char) : List CodePoint := s.map .char

/-- The characters of a text, if it consists of characters. -/
def chars? (s : List CodePoint) : Option (List Char) := s.mapM char?

/-- The lower-case text; `run` is the run of characters in front of it, the last one first.  A half
has no case and ends the word in front of it. -/
def lowerAfter (run : List Char) : List CodePoint → List CodePoint
  | [] => ofChars (Text.lower run.reverse)
  | .char c :: rest => lowerAfter (c :: run) rest
  | .half code :: rest => ofChars (Text.lower run.reverse) ++ .half code :: lowerAfter [] rest

/-- The lower-case text. -/
def lower (s : List CodePoint) : List CodePoint := lowerAfter [] s

end CodePoint

end PluginOrder.Text
