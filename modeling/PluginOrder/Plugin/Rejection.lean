import PluginOrder.Value.Display

/-!
# Rejections

Why an import, and therefore a plugin, cannot be served: one of six statuses, the plugin that the
failure points at, and where it helps the service or the required range.
-/

namespace PluginOrder

/-- What went wrong with an import. -/
inductive Status where
  | requiredPluginFailedToLoad
  | requiredPluginNotFound
  | invalidRequiredVersionRange
  | importedServiceIsAnImport
  | requiredServiceVersionMismatch
  | requiredServiceNotFound
  deriving DecidableEq, Repr

namespace Status

/-- All statuses. -/
def all : List Status :=
  [.requiredPluginFailedToLoad, .requiredPluginNotFound, .invalidRequiredVersionRange,
    .importedServiceIsAnImport, .requiredServiceVersionMismatch, .requiredServiceNotFound]

/-- The code of a status. -/
def code : Status → String
  | .requiredPluginFailedToLoad => "REQUIRED_PLUGIN_FAILED_TO_LOAD"
  | .requiredPluginNotFound => "REQUIRED_PLUGIN_NOT_FOUND"
  | .invalidRequiredVersionRange => "INVALID_REQUIRED_VERSION_RANGE"
  | .importedServiceIsAnImport => "IMPORTED_SERVICE_IS_AN_IMPORT"
  | .requiredServiceVersionMismatch => "REQUIRED_SERVICE_VERSION_MISMATCH"
  | .requiredServiceNotFound => "REQUIRED_SERVICE_NOT_FOUND"

/-- The status of a code. -/
def ofCode? (code : String) : Option Status := all.find? fun status => status.code == code

/-- What is said of a value that is the code of no status. -/
def unknownCode (v : Value) : String := (v.literal?.getD "") ++ " is not a valid ResolutionStatus"

/-- A status in words. -/
def description : Status → String
  | .requiredPluginFailedToLoad => "Required plugin failed to load"
  | .requiredPluginNotFound => "Required plugin not found"
  | .invalidRequiredVersionRange => "Invalid required version range"
  | .importedServiceIsAnImport => "Imported service is itself an import"
  | .requiredServiceVersionMismatch => "Required service version not found"
  | .requiredServiceNotFound => "Required service not found"

end Status

/-- Why an import or a plugin was rejected. -/
structure Rejection where
  status : Status
  /-- The plugin that the failure points at. -/
  plugin : String
  /-- The service, where it is to blame. -/
  service : Option String
  /-- The required range, where it was not met; null where it plays no part. -/
  required : Value

namespace Rejection

/-- The fields besides the status, those that play no part left out. -/
def context (r : Rejection) : List (String × Value) :=
  [("pluginId", .text r.plugin)] ++
    (match r.service with
      | some service => [("serviceName", .text service)]
      | none => []) ++
    match r.required with
    | .null => []
    | required => [("requiredVersion", required)]

/-- The document value of a rejection. -/
def toValue (r : Rejection) : Value := .object (("status", .text r.status.code) :: r.context)

/-- A rejection in words, unless there is a field without a text. -/
def format? (r : Rejection) : Option String := do
  let fields ← r.context.mapM fun (key, value) => value.display?.map (key ++ ": " ++ ·)
  some (r.status.description ++ ": " ++ joinTexts ", " fields)

end Rejection

end PluginOrder
