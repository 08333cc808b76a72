import PluginOrder.Journal.Event
import PluginOrder.Ledger
import PluginOrder.Plugin.Basic
import PluginOrder.Plugin.Error

/-!
# The registry

A registry holds plugins under their identifiers, in the order of registration.  The plugins
themselves live in a store that several registries may share, and a registry names them by their
handles, so a binding or a range that changes is seen by everyone.

Replacing a plugin keeps its position.  An operation that fails changes nothing.
-/

namespace PluginOrder

/-- Plugins that are shared by their handles, the numbers below `n`. -/
abbrev Store (n : Nat) := Vector Plugin n

/-- Handles under the identifiers of their plugins, in the order of registration. -/
abbrev Registry (n : Nat) := Ledger (Fin n)

namespace Registry

variable {n : Nat}

/-- The registered plugins as they are now. -/
def catalog (store : Store n) (r : Registry n) : Ledger Plugin :=
  r.mapValues fun _ handle => store.get handle

/-- Registers a plugin under its identifier.  If the identifier is taken the plugin there is
replaced, or it is an error unless that is asked for. -/
def register (store : Store n) (r : Registry n) (handle : Fin n) (replace : Bool) :
    Except PluginError (Registry n × List Event) :=
  let p := store.get handle
  let registered := Event.pluginRegistered p.identifier p.services.length p.imports.length
  if r.contains p.identifier then
    if replace then
      .ok (r.insert p.identifier handle, [.pluginReplaced p.identifier, registered])
    else .error (.duplicate (.text p.identifier))
  else .ok (r.insert p.identifier handle, [registered])

/-- Registers plugins one after the other. -/
def registerAll (store : Store n) (replace : Bool) :
    Registry n → List (Fin n) → Except PluginError (Registry n × List Event)
  | r, [] => .ok (r, [])
  | r, handle :: rest => do
    let (r, first) ← register store r handle replace
    let (r, others) ← registerAll store replace r rest
    .ok (r, first ++ others)

/-- The plugin of an identifier.  A value that is no text identifies nothing. -/
def find? (r : Registry n) : Value → Option (Fin n)
  | .text id => r.get? id
  | _ => none

/-- The plugin of an identifier; it is an error if there is none. -/
def require (r : Registry n) (id : Value) : Except PluginError (Fin n) :=
  match r.find? id with
  | some handle => .ok handle
  | none => .error (.notFound id)

/-- Removes the plugin of an identifier; it is an error if there is none. -/
def unregister (r : Registry n) (id : Value) :
    Except PluginError (Fin n × Registry n × List Event) :=
  match id, r.find? id with
  | .text key, some handle => .ok (handle, r.erase key, [.pluginRemoved key])
  | _, _ => .error (.notFound id)

end Registry

end PluginOrder
