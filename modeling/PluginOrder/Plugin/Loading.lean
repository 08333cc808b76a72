import PluginOrder.Files.Snapshot
import PluginOrder.Json.Reader
import PluginOrder.Plugin.Definition
import PluginOrder.Text.Utf8
import PluginOrder.Yaml.Reader

/-!
# Loading definitions

Definitions are read from files whose suffix says whether they hold JSON or YAML.  A directory
stands for every file of the usual name below it, at whatever depth, and for every other file
with such a suffix directly in it, in the order of their paths.  A directory cannot be searched if a
path on the way is too long.

Loading stops at the first fault.  What was reported until then is kept.
-/

namespace PluginOrder

/-- Why a definition cannot be loaded. -/
inductive LoadFault where
  /-- There is nothing at the path. -/
  | noSuchPath (path : Path)
  /-- The path cannot be read. -/
  | unreadable (fault : PathFault) (path : Path)
  /-- The definition is malformed. -/
  | refused (error : PluginError)
  /-- A number in the document is too long to be read. -/
  | oversizedNumber (digits : Nat)
  /-- A number in the document is too large to be shown as text. -/
  | unprintableNumber
  /-- A scalar in the document has no value of its type. -/
  | scalar (fault : Yaml.Fault)

/-- A fault in words. -/
def LoadFault.message : LoadFault → String
  | .noSuchPath path => "Plugin definition path not found: " ++ path.display
  | .unreadable fault path => fault.message path
  | .refused error => error.message
  | .oversizedNumber digits => Text.oversizedNumeral digits
  | .unprintableNumber => Text.unprintableNumber
  | .scalar fault => fault.message

/-- A result, or why there is none, and what was reported. -/
structure Loaded (α : Type) where
  result : Except LoadFault α
  journal : List Event

/-- The languages of definitions. -/
inductive Format where
  | json
  | yaml
  deriving DecidableEq, Repr

/-- The format of a suffix. -/
def Format.ofSuffix? (suffix : String) : Option Format :=
  if suffix = ".json" then some .json
  else if suffix = ".yaml" ∨ suffix = ".yml" then some .yaml
  else none

/-- The name under which definitions are looked for in directories. -/
def definitionFileName : String := "pluginDefinition.json"

namespace Definition

/-- The fault of a definition with a single complaint about the whole of it. -/
def refuse (path : Path) (message : String) : LoadFault :=
  .refused (.definition path.display [.whole message])

/-- Reads the document in a file. -/
def readDocument (format : Format) (path : Path) (octets : List UInt8) :
    Except LoadFault Document :=
  match Text.readUtf8 octets with
  | .error fault => .error (refuse path fault.message)
  | .ok chars =>
    let text := Text.unifyLineBreaks chars
    match format with
    | .json =>
      match Json.read text with
      | .ok v => .ok (.ofValue v)
      | .error (.malformed kind rest) =>
        .error (refuse path (Json.placedMessage text kind rest))
      | .error (.oversizedNumber digits) => .error (.oversizedNumber digits)
    | .yaml =>
      match Yaml.read text with
      | .ok d => .ok d
      | .error .malformed => .error (refuse path (Yaml.Fault.message .malformed))
      | .error fault => .error (.scalar fault)

/-- A definition that was read from a source, as the result of loading it. -/
def loaded (source : String) (d : Definition) : Loaded Plugin where
  result :=
    match d.result with
    | .ok p => .ok p
    | .error (.malformed details) => .error (.refused (.definition source details))
    | .error .unprintable => .error .unprintableNumber
  journal := d.journal

/-- Loads the definition in a file. -/
def load (s : Snapshot) (path : Path) : Loaded Plugin :=
  match Format.ofSuffix? path.suffix with
  | none =>
    let suffix := if path.suffix.isEmpty then "<none>" else path.suffix
    ⟨.error (refuse path ("Unsupported file type: " ++ suffix)), []⟩
  | some format =>
    match s.read path with
    | .error fault => ⟨.error (.unreadable fault path), []⟩
    | .ok octets =>
      match readDocument format path octets with
      | .error fault => ⟨.error fault, []⟩
      | .ok d => loaded path.display (read path.display d)

/-- Whether something below a directory is a definition: it has the usual name, whatever it is,
or it is a file directly in the directory with a suffix that is known. -/
def isDefinition (names : List String) (entry : Entry) : Bool :=
  names.getLast? == some definitionFileName ||
    (names.length == 1 && entry != .directory &&
      (Format.ofSuffix? (Path.mk "" names).suffix).isSome)

/-- What a search of a directory looks at: a definition in it, one in every directory below it,
and whatever stands directly in it. -/
def searchedIn (s : Snapshot) (position : Position) : List (List String) :=
  let found := s.below position
  let directories := (found.filter fun (_, entry) => entry == .directory).map Prod.fst
  ([] :: directories).map (· ++ [definitionFileName]) ++
    (found.map Prod.fst).filter (·.length == 1)

/-- The first path of a search that is too long to be looked at. -/
def obstacle? (s : Snapshot) (path : Path) (position : Position) : Option Path :=
  ((searchedIn s position).map path.append).find? fun p =>
    p.display.utf8ByteSize > Snapshot.pathLimit

/-- The paths of the definitions in a directory, in their order. -/
def pathsIn (s : Snapshot) (path : Path) (position : Position) : List Path :=
  let found := (s.below position).filter fun (names, entry) => isDefinition names entry
  ((found.map Prod.fst).mergeSort namesPrecede).map path.append

/-- Loads definitions one after the other, after those that were loaded before. -/
def loadEach (s : Snapshot) : List Path → Loaded (List Plugin)
  | [] => ⟨.ok [], []⟩
  | path :: rest =>
    let first := load s path
    match first.result with
    | .error fault => ⟨.error fault, first.journal⟩
    | .ok p =>
      let others := loadEach s rest
      ⟨others.result.map (p :: ·), first.journal ++ others.journal⟩

/-- Loads what a path stands for: the definitions in a directory, or the one in a file. -/
def loadPath (s : Snapshot) (path : Path) : Loaded (List Plugin) :=
  match s.resolve path with
  | .error .tooLong => ⟨.error (.unreadable .tooLong path), []⟩
  | .error _ => ⟨.error (.noSuchPath path), []⟩
  | .ok (_, .file _) => loadEach s [path]
  | .ok (position, .directory) =>
    match obstacle? s path position with
    | some obstacle => ⟨.error (.unreadable .tooLong obstacle), []⟩
    | none =>
      let paths := pathsIn s path position
      let plugins := loadEach s paths
      ⟨plugins.result, .directorySearched path.display paths.length :: plugins.journal⟩

/-- Loads what paths stand for, in their order. -/
def loadAll (s : Snapshot) : List Path → Loaded (List Plugin)
  | [] => ⟨.ok [], []⟩
  | path :: rest =>
    let first := loadPath s path
    match first.result with
    | .error fault => ⟨.error fault, first.journal⟩
    | .ok plugins =>
      let others := loadAll s rest
      ⟨others.result.map (plugins ++ ·), first.journal ++ others.journal⟩

end Definition

end PluginOrder
