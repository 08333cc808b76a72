import PluginOrder.CommandLine.Help
import PluginOrder.CommandLine.Report
import PluginOrder.Plugin.Loading
import PluginOrder.Session
import PluginOrder.Yaml.Printer

/-!
# The commands

Both commands load definitions and register them, a later definition replacing an earlier one of
the same plugin.  `resolve` prints the order in which the plugins start and the rejected ones, and
`graph` prints the graph, a line per edge and one for every node without any.
-/

namespace PluginOrder.CommandLine

/-! ### Results as text -/

/-- How a resolution is printed. -/
inductive OutputFormat where
  | text
  | json
  | yaml
  deriving DecidableEq, Repr

/-- The line of a reject, if its reason can be told. -/
def rejectLine? (r : Reject) : Option String :=
  r.reason.format?.map fun reason => "  " ++ r.key ++ ": " ++ reason

/-- The lines of a resolution for a person to read. -/
def resolutionLines? (r : Resolution) : Option (List String) := do
  let order := r.order.zipIdx.map fun (id, i) => "  " ++ toString (i + 1) ++ ". " ++ id
  let rejects ← r.rejects.mapM rejectLine?
  some ("Load order:" :: (if order.isEmpty then ["  (none)"] else order) ++
    if rejects.isEmpty then [] else "" :: "Rejected:" :: rejects)

/-- The document value of a resolution. -/
def resolutionValue (r : Resolution) : Value :=
  .object [("plugins", .texts r.order), ("rejects", .list (r.rejects.map Reject.toValue))]

/-- A resolution in a format. -/
def resolutionText? (format : OutputFormat) (r : Resolution) : Option String :=
  match format with
  | .text => (resolutionLines? r).map (joinTexts "\n")
  | .json => some (Json.render Json.indented (resolutionValue r))
  | .yaml => some (Yaml.render (resolutionValue r))

/-- The line of an edge, if its range has a text. -/
def edgeLine? (e : Edge) : Option String :=
  let status := match e.error with
    | some reason => if e.valid then "ok" else reason.status.code
    | none => "ok"
  e.range.display?.map fun range =>
    e.provider ++ " --" ++ e.service ++ "@" ++ range ++ "--> " ++ e.importer ++
      " [" ++ status ++ "]"

/-- The lines of a node: those of its edges, or its key if there are none. -/
def nodeLines (key : String) (node : Node) : List (Option String) :=
  if node.dependents.isEmpty then [some key] else node.dependents.map edgeLine?

/-- The lines of a graph, if all of them can be written. -/
def graphLines? (g : Graph) : Option (List String) :=
  (g.entries.flatMap fun (key, node) => nodeLines key node).mapM id

/-! ### Running -/

/-- How a run ends in which loading fails. -/
def exitOf : LoadFault → ExitCode
  | .noSuchPath _ | .unreadable .missing _ => .fileNotFound
  | .refused _ => .validationError
  | _ => .generalError

/-- What is said of paths without a definition. -/
def emptyWarning (paths : List Path) : String :=
  warningText "No plugin definitions found" [("paths", joinTexts ", " (paths.map Path.display))]

/-- The catalogue of plugins registered one after the other, and what was reported. -/
def register (plugins : List Plugin) : Catalog × List Event :=
  let store : Store plugins.toArray.size := ⟨plugins.toArray, rfl⟩
  match Registry.registerAll store true ∅ (List.finRange plugins.toArray.size) with
  | .ok (registry, journal) => (registry.catalog store, journal)
  | .error _ => (∅, [])

/-- Loads plugins and runs a command on their catalogue. -/
def withPlugins (files : Snapshot) (paths : List Path) (run : List Part → Catalog → Report) :
    Report :=
  let loaded := Definition.loadAll files paths
  let parts := loaded.journal.map .event
  match loaded.result with
  | .error fault => .failed parts (exitOf fault) fault.message
  | .ok plugins =>
    let warnings := if plugins.isEmpty then [.remark (emptyWarning paths)] else []
    let (catalog, journal) := register plugins
    run (parts ++ warnings ++ journal.map .event) catalog

/-- Resolves a catalogue; `parts` is what was said before. -/
def runResolve (c : Config) (format : OutputFormat) (parts : List Part) (catalog : Catalog) :
    Report :=
  let run := catalog.resolve c
  let parts := parts ++ run.journal.map .event
  match run.answer with
  | .error (.walk (.cycle ids)) =>
    .failed parts .dependencyCycle (PluginError.message (.cycle ids))
  | .error (.walk _) => ⟨parts, .generalError⟩
  | .error (.untold _) => .failed parts .generalError Text.unprintableNumber
  | .ok r =>
    match resolutionText? format r with
    | some text =>
      ⟨parts ++ [.result (printed text)],
        if r.rejects.isEmpty then .success else .pluginsRejected⟩
    | none => .failed parts .generalError Text.unprintableNumber

/-- Prints the graph of a catalogue; `parts` is what was said before. -/
def runGraph (c : Config) (parts : List Part) (catalog : Catalog) : Report :=
  let built := catalog.buildGraph c
  let parts := parts ++ built.journal.map .event
  match graphLines? built.graph with
  | some lines =>
    ⟨parts ++ [.event (.graphPrinted built.graph.size lines.length),
        .result (printed (joinTexts "\n" lines))],
      .success⟩
  | none => .failed parts .generalError Text.unprintableNumber

end PluginOrder.CommandLine
