import PluginOrder.Files.Path
import PluginOrder.Text.Quoted

/-!
# Snapshots of file trees

A snapshot holds the files and directories that a program can see at one moment, under their
absolute positions.  A path is followed name by name through directories that are there; double
dots lead to the directory above, and above the topmost one is that directory itself.  Names and
paths have a greatest length, counted in octets.
-/

namespace PluginOrder

/-- What stands at a position. -/
inductive Entry where
  | file (octets : List UInt8)
  | directory
  deriving DecidableEq

/-- The names from the topmost directory on. -/
abbrev Position := List String

/-- Files and directories at one moment.  The topmost directory is always there. -/
structure Snapshot where
  /-- The position from which paths without a root start. -/
  workingDirectory : Position
  entries : List (Position × Entry)

/-- Why a path leads to no file. -/
inductive PathFault where
  | missing
  | notDirectory
  | isDirectory
  /-- The path or a name in it is too long. -/
  | tooLong
  /-- The path holds the null character, which no path can. -/
  | nullCharacter
  deriving DecidableEq, Repr

/-- The message of a fault at a path. -/
def PathFault.message (p : Path) : PathFault → String
  | .missing => located "[Errno 2] No such file or directory"
  | .notDirectory => located "[Errno 20] Not a directory"
  | .isDirectory => located "[Errno 21] Is a directory"
  | .tooLong => located "[Errno 36] File name too long"
  | .nullCharacter => "embedded null byte"
where
  /-- What is wrong, with the path. -/
  located (problem : String) : String := problem ++ ": " ++ Text.quote p.display

namespace Snapshot

/-- What stands at a position. -/
def at? (s : Snapshot) (position : Position) : Option Entry :=
  if position.isEmpty then some .directory else s.entries.lookup position

/-- The position that a name leads to. -/
def step (position : Position) (name : String) : Position :=
  if name = ".." then position.dropLast else position ++ [name]

/-- The greatest length of a name, in octets. -/
def nameLimit : Nat := 255

/-- The greatest length of a path, in octets. -/
def pathLimit : Nat := 4095

/-- Follows names from a position, which every further name requires to be a directory. -/
def follow (s : Snapshot) (position : Position) : List String → Except PathFault Position
  | [] => .ok position
  | name :: rest =>
    match s.at? position with
    | none => .error .missing
    | some (.file _) => .error .notDirectory
    | some .directory =>
      if name.utf8ByteSize > nameLimit then .error .tooLong
      else follow s (step position name) rest

/-- The position from which a path starts. -/
def start (s : Snapshot) (p : Path) : Position :=
  if p.root.isEmpty then s.workingDirectory else []

/-- The position that a path leads to, and what stands there. -/
def resolve (s : Snapshot) (p : Path) : Except PathFault (Position × Entry) :=
  if p.hasNull then .error .nullCharacter
  else if p.display.utf8ByteSize > pathLimit then .error .tooLong
  else
    match s.follow (s.start p) p.parts with
    | .error fault => .error fault
    | .ok position =>
      match s.at? position with
      | some entry => .ok (position, entry)
      | none => .error .missing

/-- The octets of the file at a path. -/
def read (s : Snapshot) (p : Path) : Except PathFault (List UInt8) :=
  match s.resolve p with
  | .error fault => .error fault
  | .ok (_, .directory) => .error .isDirectory
  | .ok (_, .file octets) => .ok octets

/-- The names that lead from one position to another one below it. -/
def namesBelow? : Position → Position → Option (List String)
  | [], [] => none
  | [], name :: rest => some (name :: rest)
  | _ :: _, [] => none
  | a :: above, b :: below => if a = b then namesBelow? above below else none

/-- Everything below a position, under the names that lead there. -/
def below (s : Snapshot) (position : Position) : List (List String × Entry) :=
  s.entries.filterMap fun (other, entry) =>
    (namesBelow? position other).map fun names => (names, entry)

/-! ### Making snapshots -/

/-- The snapshot that shows an empty working directory and nothing else. -/
def ofDirectory (workingDirectory : Position) : Snapshot :=
  ⟨workingDirectory, [(workingDirectory, .directory)]⟩

/-- The snapshot with an entry at a position, in place of what stood there. -/
def put (s : Snapshot) (position : Position) (entry : Entry) : Snapshot :=
  { s with entries := s.entries.filter (fun other => other.1 ≠ position) ++ [(position, entry)] }

/-- The snapshot with a directory at a position and at all positions above it, as far as nothing
stands there. -/
def makeDirectory (s : Snapshot) (position : Position) : Snapshot :=
  (List.range (position.length + 1)).foldl
    (fun s length =>
      if (s.at? (position.take length)).isSome then s
      else s.put (position.take length) .directory) s

/-- The snapshot with a file at a position, and the directories that lead there. -/
def write (s : Snapshot) (position : Position) (octets : List UInt8) : Snapshot :=
  (s.makeDirectory position.dropLast).put position (.file octets)

end Snapshot

end PluginOrder
