import PluginOrder.Plugin.Schema
import PluginOrder.Version.Pattern
import PluginOrder.Text.Blank

/-!
# Configuration

How versions are matched and which log events are shown.  A configuration comes from a document
value, or from the variables of an environment, where blank values count as absent.
-/

namespace PluginOrder

/-- The settings of a resolution and of its log. -/
structure Config where
  /-- Read versions and ranges in the loose dialect. -/
  looseVersions : Bool
  /-- Admit pre-releases to ranges that name none. -/
  includePrerelease : Bool
  /-- The least severe level that is shown. -/
  logLevel : Level
  /-- Show log events as JSON. -/
  jsonLogs : Bool
  deriving DecidableEq, Repr

namespace Config

/-- The settings that hold where nothing else is said. -/
def default : Config := ⟨false, false, .warning, false⟩

instance : Inhabited Config := ⟨default⟩

/-- The dialect in which versions are read. -/
def dialect (c : Config) : Dialect := .ofLoose c.looseVersions

/-- Checks a value as a configuration. -/
def check : Value → Checked Config :=
  checkModel .config ["loose_versions", "include_prerelease", "log_level", "json_logs"]
    fun entries =>
      .ok Config.mk
        |> Checked.ap (checkField "loose_versions" (some false) checkFlag entries)
        |> Checked.ap (checkField "include_prerelease" (some false) checkFlag entries)
        |> Checked.ap (checkField "log_level" (some .warning) checkLevel entries)
        |> Checked.ap (checkField "json_logs" (some false) checkFlag entries)

/-- The document value of a configuration. -/
def toValue (c : Config) : Value :=
  .object [("loose_versions", .bool c.looseVersions),
    ("include_prerelease", .bool c.includePrerelease), ("log_level", .text c.logLevel.name),
    ("json_logs", .bool c.jsonLogs)]

/-! ### From the environment -/

/-- Named texts. -/
abbrev Environment := List (String × String)

/-- The name of the variable for a setting. -/
def variableName (setting : String) : String := "TESSERA_" ++ setting

/-- The names of all variables that are looked at. -/
def variableNames : List String :=
  ["LOOSE_VERSIONS", "INCLUDE_PRERELEASE", "LOG_LEVEL", "JSON_LOGS"].map variableName

/-- The spellings by which a variable sets a flag. -/
def trueSpellings : List String := ["1", "true", "yes", "on"]

/-- The value of the variable for a setting without the blanks around it, unless nothing is
left. -/
def setting? (env : Environment) (setting : String) : Option (List Char) :=
  match env.lookup (variableName setting) with
  | some raw =>
    let value := Text.trim raw.toList
    if value.isEmpty then none else some value
  | none => none

/-- The flag that a variable sets, as an entry of a document value. -/
def flagEntry (env : Environment) (name field : String) : List (String × Value) :=
  match setting? env name with
  | some value => [(field, .bool (trueSpellings.contains (String.ofList (Text.lower value))))]
  | none => []

/-- The log level that a variable sets, as an entry of a document value. -/
def levelEntry (env : Environment) : List (String × Value) :=
  match setting? env "LOG_LEVEL" with
  | some value => [("log_level", .text (String.ofList (Text.upper value)))]
  | none => []

/-- The settings of an environment, as a document value. -/
def environmentValue (env : Environment) : Value :=
  .object (flagEntry env "LOOSE_VERSIONS" "loose_versions" ++
    flagEntry env "INCLUDE_PRERELEASE" "include_prerelease" ++
    flagEntry env "JSON_LOGS" "json_logs" ++ levelEntry env)

/-- The configuration of an environment. -/
def ofEnvironment (env : Environment) : Checked Config := check (environmentValue env)

end Config

end PluginOrder
