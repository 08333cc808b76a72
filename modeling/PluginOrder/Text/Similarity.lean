/-!
# Similar words

How alike two words are: the characters of their longest common run, and of those of the parts to
its left and to its right, counted against the length of both.  Words are similar from three fifths
on.
-/

namespace PluginOrder.Text

/-- A run that two texts have in common. -/
structure CommonRun where
  /-- Where it begins in the first text. -/
  left : Nat
  /-- Where it begins in the second text. -/
  right : Nat
  length : Nat

/-- The number of characters in which two texts agree from their beginnings on. -/
def agreement : List Char → List Char → Nat
  | c :: s, d :: t => if c = d then agreement s t + 1 else 0
  | _, _ => 0

/-- The longer one of two runs, the first one if they are equally long. -/
def CommonRun.longer (a b : CommonRun) : CommonRun := if a.length < b.length then b else a

/-- The longest run in common, and of several the one that begins first in the first text, then in
the second one. -/
def longestRun (a b : List Char) : CommonRun :=
  (List.range a.length).foldl
    (fun best i =>
      (List.range b.length).foldl
        (fun best j => best.longer ⟨i, j, agreement (a.drop i) (b.drop j)⟩) best)
    ⟨0, 0, 0⟩

/-- The number of characters in common.  Every run takes a character, so the length of the first
text is fuel enough. -/
def commonCount : Nat → List Char → List Char → Nat
  | 0, _, _ => 0
  | fuel + 1, a, b =>
    let run := longestRun a b
    if run.length = 0 then 0
    else
      run.length + commonCount fuel (a.take run.left) (b.take run.right) +
        commonCount fuel (a.drop (run.left + run.length)) (b.drop (run.right + run.length))

/-- The number of common characters of a word and the length of both, if they are similar. -/
def similarity? (word other : String) : Option (Nat × Nat) :=
  let total := other.length + word.length
  let common := commonCount other.length other.toList word.toList
  if 10 * common ≥ 3 * total then some (common, total) else none

/-- Whether one candidate goes before another: the more similar one, then the later word. -/
def goesBefore (a b : String × Nat × Nat) : Bool :=
  let left := a.2.1 * b.2.2
  let right := b.2.1 * a.2.2
  left > right || (left == right && a.1 ≥ b.1)

/-- The words that are similar to a word, the most similar first, at most three. -/
def similarTo (word : String) (words : List String) : List String :=
  let found := words.filterMap fun other => (similarity? word other).map fun s => (other, s)
  ((found.mergeSort goesBefore).map Prod.fst).take 3

end PluginOrder.Text
