import PluginOrder.Config
import PluginOrder.Plugin.Rejection
import PluginOrder.Version.Range

/-!
# Binding an import to a service

An import is bound to the first service of the provider that decides it.  Of the services with
the wanted name, a re-export decides against the import, a service whose version satisfies the
range decides for it, and all others are passed over.
-/

namespace PluginOrder

/-- The result of matching an import with its provider. -/
inductive Outcome where
  | bound (service : Service)
  | refused (reason : Rejection)

namespace Outcome

/-- Whether the import can be served. -/
def isValid : Outcome → Bool
  | .bound _ => true
  | .refused _ => false

/-- The service that the import is bound to. -/
def target? : Outcome → Option Service
  | .bound service => some service
  | .refused _ => none

/-- Why the import cannot be served. -/
def reason? : Outcome → Option Rejection
  | .bound _ => none
  | .refused reason => some reason

end Outcome

namespace Config

/-- Whether a value is a range in the configured dialect. -/
def isRange (c : Config) : Value → Bool
  | .text range => isValidRange c.dialect range.toList
  | _ => false

/-- Whether a version satisfies a range as configured. -/
def accepts (c : Config) (version : String) : Value → Bool
  | .text range => satisfies c.dialect c.includePrerelease version.toList range.toList
  | _ => false

end Config

namespace Import

/-- Goes through the services with the wanted name; `seen` tells whether one was passed over. -/
def scan (c : Config) (provider : String) (range : Value) (seen : Bool) :
    List Service → Outcome
  | [] =>
    if seen then .refused ⟨.requiredServiceVersionMismatch, provider, none, range⟩
    else .refused ⟨.requiredServiceNotFound, provider, none, .null⟩
  | service :: rest =>
    if service.isImport then
      .refused ⟨.importedServiceIsAnImport, provider, some service.name, .null⟩
    else if c.accepts service.version range then .bound service
    else scan c provider range true rest

/-- Matches an import with its provider, if that is registered. -/
def validate (c : Config) (i : Import) : Option Plugin → Outcome
  | none => .refused ⟨.requiredPluginNotFound, i.sourcePlugin, none, .null⟩
  | some provider =>
    if c.isRange i.versionRange then
      scan c provider.identifier i.versionRange false (provider.servicesNamed i.sourceName)
    else .refused ⟨.invalidRequiredVersionRange, provider.identifier, none, i.versionRange⟩

end Import

end PluginOrder
