import PluginOrder.Value

/-!
# Plugins

A plugin is described by the services that it exports and by its imports, the services that it
asks of other plugins.  A service that a plugin only passes on from an import is listed among its
services as a re-export, which no other plugin can import.

Everything in a description is fixed except, in an import, the range that it requires and the
service that it is bound to.
-/

namespace PluginOrder

/-- Whether a plugin implements a service or passes it on. -/
inductive ServiceKind where
  | service
  | reexport
  deriving DecidableEq, Repr

/-- A service in the list of a plugin. -/
structure Service where
  name : String
  /-- A concrete version; text that is none satisfies no range. -/
  version : String
  kind : ServiceKind
  /-- The type given in the definition, which decides nothing here. -/
  type : String
  deriving DecidableEq, Repr

/-- What a plugin asks of another one. -/
structure Import where
  /-- The plugin that is to provide the service. -/
  sourcePlugin : String
  /-- The name of the service there. -/
  sourceName : String
  /-- The name of the service here. -/
  localName : String
  /-- The range of versions that will do.  Only a text can be a range, but any value may have been
  put here. -/
  versionRange : Value
  /-- The service that the import is bound to. -/
  target : Option Service

/-- The description of a plugin. -/
structure Plugin where
  identifier : String
  /-- The version of the plugin itself, which decides nothing here. -/
  pluginVersion : Option String
  services : List Service
  imports : List Import

namespace Service

/-- Whether the service is passed on from an import. -/
def isImport (s : Service) : Bool := s.kind == .reexport

end Service

namespace Plugin

/-- Whether the plugin asks for anything. -/
def hasImports (p : Plugin) : Bool := !p.imports.isEmpty

/-- The services of a name, in their order. -/
def servicesNamed (p : Plugin) (name : String) : List Service :=
  p.services.filter fun service => service.name == name

/-- The positions of the services of a name. -/
def positionsNamed (p : Plugin) (name : String) : List Nat :=
  (p.services.zipIdx.filter fun (service, _) => service.name == name).map Prod.snd

/-- What each import is bound to, under its local name. -/
def bindings (p : Plugin) : List (String × Option Service) :=
  p.imports.map fun i => (i.localName, i.target)

end Plugin

/-! ### Descriptions as document values -/

namespace ServiceKind

/-- How a kind is written. -/
def name : ServiceKind → String
  | .service => "service"
  | .reexport => "import"

/-- The kind of a written name. -/
def ofName? (name : String) : Option ServiceKind :=
  if name = "service" then some .service
  else if name = "import" then some .reexport
  else none

end ServiceKind

/-- The document value of a service. -/
def Service.toValue (s : Service) : Value :=
  .object [("name", .text s.name), ("version", .text s.version), ("kind", .text s.kind.name),
    ("type", .text s.type)]

/-- The document value of an import, which leaves out what it is bound to. -/
def Import.toValue (i : Import) : Value :=
  .object [("source_plugin", .text i.sourcePlugin), ("source_name", .text i.sourceName),
    ("local_name", .text i.localName), ("version_range", i.versionRange)]

/-- The document value of a plugin. -/
def Plugin.toValue (p : Plugin) : Value :=
  .object [("identifier", .text p.identifier), ("plugin_version", .text? p.pluginVersion),
    ("services", .list (p.services.map Service.toValue)),
    ("imports", .list (p.imports.map Import.toValue))]

end PluginOrder
