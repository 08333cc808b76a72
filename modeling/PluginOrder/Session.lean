import PluginOrder.Plugin.Registry
import PluginOrder.Resolution

/-!
# Sessions

A session is a registry over a store of plugins, and the steps that may be taken on it: plugins
come and go, ranges change, graphs are built and resolutions run, each of which binds the imports
of the registered plugins anew.

A step that fails leaves the registry and the store as they were, except that a resolution that
fails has bound the imports before.
-/

namespace PluginOrder

/-- A registry over a store. -/
structure Session (n : Nat) where
  store : Store n
  registry : Registry n

/-- What may be done in a session. -/
inductive Step (n : Nat) where
  | register (handle : Fin n) (replace : Bool)
  | unregister (id : Value)
  | require (id : Value)
  | item (id : Value)
  | find (id : Value)
  | contains (id : Value)
  | size
  | clear
  | list
  | graph
  | resolve
  | bindings (handle : Fin n)
  /-- Gives the import at a position another range.  A negative position counts from the end. -/
  | setRange (handle : Fin n) (position : Int) (range : Value)

/-- What a step answers. -/
inductive Answer where
  | done
  | flag (value : Bool)
  | number (value : Nat)
  | plugin (value : Option Plugin)
  | plugins (values : List Plugin)
  | graph (value : Graph)
  | resolution (value : Resolution)
  | bindings (values : List (String × Option Service))

/-- Why a step fails. -/
inductive StepFault where
  | plugin (error : PluginError)
  /-- A look-up by key found nothing. -/
  | missingKey (key : Value)
  /-- A collection is asked for as a key, which it can never be. -/
  | collectionAsKey (key : Value)
  /-- No import has the position. -/
  | noSuchPosition (position : Int)
  | resolution (fault : ResolutionFault)

namespace StepFault

/-- What is said of a key that nothing has. -/
def missingKeyMessage (key : Value) : String := key.literal?.getD ""

/-- What is said of a key that is a collection. -/
def collectionMessage (key : Value) : String := "unhashable type: '" ++ key.kindName ++ "'"

/-- What is said of a position that no import has: it is beyond the list, or beyond every list. -/
def positionMessage (position : Int) : String :=
  if -(Nat.pow 2 63 : Int) ≤ position ∧ position < Nat.pow 2 63 then "list index out of range"
  else "cannot fit 'int' into an index-sized integer"

end StepFault

/-- What a step leaves behind. -/
structure StepResult (n : Nat) where
  session : Session n
  answer : Except StepFault Answer
  journal : List Event

namespace Session

variable {n : Nat}

/-- The registered plugins as they are now. -/
def catalog (s : Session n) : Catalog := s.registry.catalog s.store

/-- Writes the plugins of a catalogue back to the handles that are registered under its keys. -/
def writeBack (s : Session n) (catalog : Catalog) : Session n :=
  { s with
    store := s.registry.entries.foldl
      (fun store (key, handle) =>
        match catalog.get? key with
        | some p => store.set handle p handle.isLt
        | none => store) s.store }

/-- An answer that changes nothing and reports nothing. -/
def reply (s : Session n) (answer : Answer) : StepResult n := ⟨s, .ok answer, []⟩

/-- A failure that changes nothing and reports nothing. -/
def refuse (s : Session n) (fault : StepFault) : StepResult n := ⟨s, .error fault, []⟩

/-- A plugin with another range in one of its imports. -/
def withRange (p : Plugin) (position : Nat) (range : Value) : Plugin :=
  { p with imports := p.imports.modify position fun i => { i with versionRange := range } }

/-- The position in a list of a length that a number means, a negative one from the end. -/
def position? (length : Nat) (position : Int) : Option Nat :=
  let fromFront := if position < 0 then position + length else position
  if 0 ≤ fromFront ∧ fromFront < length then some fromFront.toNat else none

/-- Answers by an identifier, which can be no collection. -/
def withKey (s : Session n) (id : Value) (result : StepResult n) : StepResult n :=
  match id with
  | .list _ | .map _ | .set _ => s.refuse (.collectionAsKey id)
  | _ => result

/-- Takes a step. -/
def take (c : Config) (s : Session n) : Step n → StepResult n
  | .register handle replace =>
    match s.registry.register s.store handle replace with
    | .ok (registry, journal) => ⟨{ s with registry }, .ok .done, journal⟩
    | .error error => s.refuse (.plugin error)
  | .unregister id =>
    s.withKey id
      (match s.registry.unregister id with
      | .ok (handle, registry, journal) =>
        ⟨{ s with registry }, .ok (.plugin (some (s.store.get handle))), journal⟩
      | .error error => s.refuse (.plugin error))
  | .require id =>
    s.withKey id
      (match s.registry.require id with
      | .ok handle => s.reply (.plugin (some (s.store.get handle)))
      | .error error => s.refuse (.plugin error))
  | .item id =>
    s.withKey id
      (match s.registry.find? id with
      | some handle => s.reply (.plugin (some (s.store.get handle)))
      | none => s.refuse (.missingKey id))
  | .find id =>
    s.withKey id
      (s.reply (.plugin ((s.registry.find? id).map fun handle => s.store.get handle)))
  | .contains id => s.withKey id (s.reply (.flag (s.registry.find? id).isSome))
  | .size => s.reply (.number s.registry.size)
  | .clear => ⟨{ s with registry := ∅ }, .ok .done, []⟩
  | .list => s.reply (.plugins s.catalog.values)
  | .graph =>
    let built := s.catalog.buildGraph c
    ⟨s.writeBack built.catalog, .ok (.graph built.graph), built.journal⟩
  | .resolve =>
    let run := s.catalog.resolve c
    ⟨s.writeBack run.catalog,
      match run.answer with
      | .ok resolution => .ok (.resolution resolution)
      | .error fault => .error (.resolution fault),
      run.journal⟩
  | .bindings handle => s.reply (.bindings (s.store.get handle).bindings)
  | .setRange handle position range =>
    match position? (s.store.get handle).imports.length position with
    | some number =>
      let p := withRange (s.store.get handle) number range
      ⟨{ s with store := s.store.set handle p handle.isLt }, .ok .done, []⟩
    | none => s.refuse (.noSuchPosition position)

end Session

end PluginOrder
