import PluginOrder.CommandLine.Message
import PluginOrder.CommandLine.Option
import PluginOrder.Text.Quoted

/-!
# Usage and help

The texts that tell how the program is called, and what is said if it is called in another way.
-/

namespace PluginOrder.CommandLine

/-- What can be asked for. -/
inductive Command where
  | resolve
  | graph
  deriving DecidableEq, Repr

/-- The name of a command. -/
def Command.name : Command → String
  | .resolve => "resolve"
  | .graph => "graph"

/-- The commands by their names. -/
def commands : List (String × Command) := [("graph", .graph), ("resolve", .resolve)]

/-- The name of the program. -/
def programName : String := "tessera"

/-- The name and the version of the program. -/
def versionText : String := programName ++ " 0.1.0"

/-- What usage concerns: the program as a whole, or one command. -/
abbrev Scope := Option Command

namespace Scope

/-- The words with which a scope is called. -/
def path : Scope → String
  | none => programName
  | some command => programName ++ " " ++ command.name

/-- The line of usage. -/
def usage (s : Scope) : String :=
  "Usage: " ++ path s ++
    match s with
    | none => " [OPTIONS] COMMAND [ARGS]..."
    | some _ => " [OPTIONS] PATHS..."

/-- The lines that explain a scope. -/
def explanation : Scope → List String
  | none =>
    ["  tessera - Plugin dependency resolution and load ordering.",
      "",
      "Options:",
      "  --version                       Show the version and exit.",
      "  --log-level [debug|info|warning|error|critical]",
      "                                  Minimum log level (default:",
      "                                  TESSERA_LOG_LEVEL or WARNING).",
      "  --json-logs / --console-logs    Log format (default: TESSERA_JSON_LOGS or",
      "                                  console).",
      "  -h, --help                      Show this message and exit.",
      "",
      "Commands:",
      "  graph    Print the plugin dependency graph, one edge per import.",
      "  resolve  Resolve plugin dependencies and print the load order.",
      "",
      "  Use 'tessera <command> --help' for command-specific help."]
  | some .resolve =>
    ["  Resolve plugin dependencies and print the load order.",
      "",
      "  Exits 0 when every plugin can be installed, 6 when some plugin is rejected,",
      "  and 7 when plugin imports form a cycle.",
      "",
      "  PATHS are plugin definition files (JSON or YAML) or directories to scan for",
      "  pluginDefinition.json files.",
      "",
      "  Examples:     $ tessera resolve plugins/     $ tessera resolve a.json b.yaml",
      "  --format json",
      "",
      "Options:",
      "  --format [text|json|yaml]  Output format.  [default: text]",
      "  --loose                    Parse versions in loose mode.",
      "  --include-prerelease       Let pre-release versions satisfy plain ranges.",
      "  -h, --help                 Show this message and exit."]
  | some .graph =>
    ["  Print the plugin dependency graph, one edge per import.",
      "",
      "  Each line reads \x22provider --service@range--> importer [status]\x22, where",
      "  status is \x22ok\x22 or the reason the import cannot be satisfied. Plugins nobody",
      "  imports from are listed on their own.",
      "",
      "  Examples:     $ tessera graph plugins/",
      "",
      "Options:",
      "  --loose               Parse versions in loose mode.",
      "  --include-prerelease  Let pre-release versions satisfy plain ranges.",
      "  -h, --help            Show this message and exit."]

/-- The help text of a scope. -/
def help (s : Scope) : String := joinTexts "\n" ([usage s, ""] ++ explanation s)

end Scope

/-- How the program was called in a way that it does not understand. -/
inductive UsageFault where
  | option (fault : OptionFault)
  /-- There is no such command, but there may be similar ones. -/
  | unknownCommand (name : String) (similar : List String)
  | commandMissing
  | pathsMissing
  /-- A value is none of the choices of an option. -/
  | notAChoice (option value : String) (choices : List String)
  deriving DecidableEq, Repr

namespace UsageFault

/-- What is said of similar words. -/
def suggestion (similar : List String) : String :=
  match similar with
  | [] => ""
  | [word] => " Did you mean " ++ Text.quote word ++ "?"
  | words =>
    let sorted := words.mergeSort fun a b => a ≤ b
    " (Did you mean one of: " ++ joinTexts ", " (sorted.map Text.quote) ++ "?)"

/-- A fault in words. -/
def message : UsageFault → String
  | .option (.unknown name similar) =>
    "No such option " ++ Text.quote name ++ "." ++ suggestion similar
  | .option (.valueMissing name) => "Option " ++ Text.quote name ++ " requires an argument."
  | .option (.valueGiven name) => "Option " ++ Text.quote name ++ " does not take a value."
  | .unknownCommand name similar =>
    "No such command " ++ Text.quote name ++ "." ++ suggestion similar
  | .commandMissing => "Missing command."
  | .pathsMissing => "Missing argument 'PATHS...'."
  | .notAChoice name value choices =>
    "Invalid value for " ++ Text.quote name ++ ": " ++ Text.quote value ++ " is not one of " ++
      joinTexts ", " (choices.map Text.quote) ++ "."

/-- Whether the line of usage is shown with a fault. -/
def showsUsage : UsageFault → Bool
  | .option (.valueMissing _) | .option (.valueGiven _) => false
  | _ => true

/-- What is printed about a fault in a scope. -/
def text (s : Scope) (fault : UsageFault) : String :=
  printed ((if fault.showsUsage then
      Scope.usage s ++ "\nTry '" ++ Scope.path s ++ " --help' for help.\n\n" else "") ++
    "Error: " ++ fault.message)

end UsageFault

end PluginOrder.CommandLine
