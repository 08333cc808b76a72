import PluginOrder.Text.CaseContext
import PluginOrder.Text.CaseTable

/-!
# Upper and lower case

The case mappings of all scripts, character by character except for the Greek sigma, whose small
form at the end of a word is a letter of its own.
-/

namespace PluginOrder.Text

/-- The image of a code point under a run of a case table. -/
def caseImage? (runs : List CaseRun) (n : Nat) : Option Nat :=
  (runs.find? fun (first, last, step, _) =>
    first ≤ n && n ≤ last && (n - first) % step == 0).map fun (_, _, _, offset) =>
      ((n : Int) + offset).toNat

/-- The image of a character under a mapping given by its tables. -/
def mapCase (runs : List CaseRun) (specials : List (Nat × List Nat)) (c : Char) : List Char :=
  match specials.lookup c.toNat with
  | some image => image.map Char.ofNat
  | none => [Char.ofNat ((caseImage? runs c.toNat).getD c.toNat)]

/-- The upper-case text. -/
def upper (s : List Char) : List Char := s.flatMap (mapCase upperRuns upperSpecials)

/-- Whether a character is passed over when the end of a word is looked for. -/
def isCaseIgnorable (c : Char) : Bool := isInRuns ignorableRuns c.toNat

/-- Whether a character that counts has case. -/
def isCased (c : Char) : Bool := isInRuns casedRuns c.toNat

/-- Whether the next character that counts is a letter with case. -/
def meetsCased (s : List Char) : Bool :=
  match s.dropWhile isCaseIgnorable with
  | c :: _ => isCased c
  | [] => false

/-- The lower-case text; `before` is what stands before it, nearest character first. -/
def lowerAfter (before : List Char) : List Char → List Char
  | [] => []
  | c :: rest =>
    let image :=
      if c = '\u03a3' then
        [if meetsCased before && !meetsCased rest then '\u03c2' else '\u03c3']
      else mapCase lowerRuns lowerSpecials c
    image ++ lowerAfter (c :: before) rest

/-- The lower-case text. -/
def lower (s : List Char) : List Char := lowerAfter [] s

/-- The lower-case text as far as ASCII letters go. -/
def lowerAscii (s : List Char) : List Char := s.map Char.toLower

end PluginOrder.Text
