import PluginOrder.Document
import PluginOrder.Journal.Event
import PluginOrder.Plugin.Error
import PluginOrder.Plugin.Schema

/-!
# Plugin definitions

A definition is the document that a plugin ships with.  Its data services are entries of two
kinds: one of type `import` is an import, any other one is a service of the plugin.  An import
entry with a name of its own is listed among the services too, as a re-export.

Types and versions may be any value and count by their text; null counts as absent for the plugin
version, for versions and ranges, and so does everything that is not true for the list of data
services.  All other keys of a definition are ignored.
-/

namespace PluginOrder

namespace Definition

/-- Why a definition is refused. -/
inductive Fault where
  /-- It is malformed. -/
  | malformed (details : List Detail)
  /-- A number in it is too large to be shown as text. -/
  | unprintable

/-- A fault that is a single complaint about a field. -/
def Fault.single (field message : String) : Fault :=
  .malformed [⟨.text field, .text message, none⟩]

/-- The text of a value that has one.  An ill-formed text is its own. -/
def text (d : Document) (v : Value) : Except Fault Value :=
  match v with
  | .illFormed _ => .ok v
  | v =>
    match d.display? v with
    | some s => .ok (.text s)
    | none => .error .unprintable

/-- An entry of a rebuilt document, if the value is there. -/
def optionalEntry (name : String) : Option Value → List (String × Value)
  | some v => [(name, v)]
  | none => []

/-- A value, unless it is null. -/
def present? : Option Value → Option Value
  | some .null => none
  | v => v

/-- The text of a value, unless it is absent or null. -/
def presentText (d : Document) (v : Option Value) : Except Fault (Option Value) :=
  match present? v with
  | none => .ok none
  | some v => (text d v).map some

/-- The range of an import entry: under its own key, or else under that of the version. -/
def range? (entry : Value) : Option Value :=
  match entry.get? "versionRange" with
  | some v => present? (some v)
  | none => present? (entry.get? "version")

/-- The import of an entry, as a document value. -/
def importValue (entry : Value) : Value :=
  .object (optionalEntry "source_plugin" (entry.get? "sourcePlugin") ++
    optionalEntry "source_name" (entry.get? "sourceName") ++
    optionalEntry "local_name" (entry.get? "localName") ++
    optionalEntry "version_range" (range? entry))

/-- The type of the entries that are imports. -/
def importType : String := "import"

/-- The re-export of an import entry with a name, as a document value. -/
def reexportValues (entry : Value) : List Value :=
  match entry.get? "name" with
  | some name =>
    [.object [("name", name), ("kind", .text ServiceKind.reexport.name),
      ("type", .text importType)]]
  | none => []

/-- The service of an entry of another type, as a document value. -/
def serviceValue (d : Document) (entry type : Value) : Except Fault Value := do
  let version ← presentText d (entry.get? "version")
  .ok (.object (("type", type) :: optionalEntry "name" (entry.get? "name") ++
    optionalEntry "version" version))

/-- The services and the imports of the entries from a position on, as document values. -/
def declarations (d : Document) : Nat → List Value → Except Fault (List Value × List Value)
  | _, [] => .ok ([], [])
  | position, entry :: rest =>
    match d.view entry with
    | .map entries => do
      let entry := Value.map entries
      let type ← text d ((entry.get? "type").getD (.text "service"))
      if type.isText importType then
        let (services, imports) ← declarations d (position + 1) rest
        .ok (reexportValues entry ++ services, importValue entry :: imports)
      else
        let service ← serviceValue d entry type
        let (services, imports) ← declarations d (position + 1) rest
        .ok (service :: services, imports)
    | _ => .error (.single ("dataServices." ++ toString position) "Must be a mapping")

/-- The data services of a definition: a list, or nothing. -/
def dataServices (d : Document) (data : Value) : Except Fault (List Value) :=
  match (data.get? "dataServices").map d.view with
  | none => .ok []
  | some v =>
    if v.isTruthy then
      match v with
      | .list items => .ok items
      | _ => .error (.single "dataServices" "Must be a list")
    else .ok []

/-- The document value that a definition is checked as. -/
def described (d : Document) : Except Fault Value :=
  match d.view d.root with
  | .map entries => do
    let data := Value.map entries
    let (services, imports) ← declarations d 0 (← dataServices d data)
    let version ← presentText d (data.get? "pluginVersion")
    .ok (.object ([("services", .list services), ("imports", .list imports)] ++
      optionalEntry "identifier" (data.get? "identifier") ++
      optionalEntry "plugin_version" version))
  | _ => .error (.malformed [.whole "Plugin definition must be a mapping"])

/-- A finding as a detail of an error. -/
def detail (f : Finding) : Detail :=
  ⟨.text f.field, .text f.complaint.message, some f.complaint.code⟩

end Definition

/-- A definition that was read, or why it was refused, and what was reported. -/
structure Definition where
  result : Except Definition.Fault Plugin
  journal : List Event

/-- Reads a definition; `source` names where it came from. -/
def Definition.read (source : String) (d : Document) : Definition :=
  match described d with
  | .error fault => ⟨.error fault, []⟩
  | .ok described =>
    match Plugin.check described with
    | .error findings =>
      ⟨.error (.malformed (findings.map detail)), [.definitionRefused source findings.length]⟩
    | .ok p =>
      ⟨.ok p, [.definitionRead source p.identifier p.services.length p.imports.length]⟩

end PluginOrder
