import PluginOrder.Text.Blank
import PluginOrder.Text.Case

/-!
# Paths

A path is a list of names below a root, or below the working directory if it has no root.  Empty
names and single dots say nothing and are dropped when a path is read; double dots stay, since
what they mean depends on the directories that are there.
-/

namespace PluginOrder

/-- A path in a tree of files. -/
structure Path where
  /-- One or two slashes, or nothing for a path from the working directory. -/
  root : String
  /-- The names on the way. -/
  parts : List String
  deriving DecidableEq, Repr

namespace Path

/-- The root that a text begins with: two slashes are a root of their own, more count as one. -/
def rootOf : List Char → String
  | ['/', '/'] => "//"
  | '/' :: '/' :: c :: _ => if c = '/' then "/" else "//"
  | '/' :: _ => "/"
  | _ => ""

/-- Reads a path. -/
def ofString (s : String) : Path where
  root := rootOf s.toList
  parts := ((Text.splitOn '/' s.toList).map String.ofList).filter fun part =>
    part != "" && part != "."

/-- The text of a path. -/
def display (p : Path) : String :=
  if p.root.isEmpty && p.parts.isEmpty then "." else p.root ++ "/".intercalate p.parts

/-- Whether the null character is in a path. -/
def hasNull (p : Path) : Bool := p.parts.any fun part => part.toList.contains '\x00'

/-- A path further down. -/
def append (p : Path) (parts : List String) : Path := { p with parts := p.parts ++ parts }

/-- The part of a file name from its last dot on, unless the dot is its first or last character. -/
def suffixOf (name : List Char) : List Char :=
  let tail := name.reverse.takeWhile (· != '.')
  if tail.isEmpty || name.length ≤ tail.length + 1 then [] else '.' :: tail.reverse

/-- The suffix of the last name of a path, in small letters. -/
def suffix (p : Path) : String :=
  String.ofList (Text.lower (suffixOf ((p.parts.getLast?.getD "").toList)))

end Path

/-- The order of lists of names: by the first difference, a beginning before its continuations. -/
def namesPrecede : List String → List String → Bool
  | [], _ => true
  | _ :: _, [] => false
  | a :: as, b :: bs => if a = b then namesPrecede as bs else a < b

end PluginOrder
