import PluginOrder.Journal.Level
import PluginOrder.Plugin.Rejection

/-!
# Log events

What the library reports while it works.  An event has a name, a level and fields in a fixed
order; how it is shown is decided elsewhere.
-/

namespace PluginOrder

/-- Something worth reporting. -/
inductive Event where
  /-- A directory was searched for definitions. -/
  | directorySearched (path : String) (files : Nat)
  /-- A definition was refused. -/
  | definitionRefused (source : String) (findings : Nat)
  /-- A definition was read. -/
  | definitionRead (source plugin : String) (services imports : Nat)
  /-- A registered plugin is replaced. -/
  | pluginReplaced (plugin : String)
  /-- A plugin was registered. -/
  | pluginRegistered (plugin : String) (services imports : Nat)
  /-- A plugin was removed. -/
  | pluginRemoved (plugin : String)
  /-- A plugin without imports was met. -/
  | standalonePlugin (plugin : String)
  /-- An import can be served. -/
  | dependencyResolved (provider importer service version : String)
  /-- An import cannot be served. -/
  | dependencyInvalid (provider importer service : String) (status : Status)
  /-- The graph is complete. -/
  | graphBuilt (nodes : Nat)
  /-- A node is rejected. -/
  | nodeRejected (node : String) (status : Status) (cause : String)
  /-- A cycle was found. -/
  | cycleFound (cycle : List String)
  /-- A resolution begins. -/
  | resolutionStarted (plugins : Nat)
  /-- A plugin is reported as rejected, with the reason in words. -/
  | pluginRejected (plugin : String) (status : Status) (reason : String)
  /-- A resolution is complete. -/
  | resolutionCompleted (order rejected : List String)
  /-- The lines of a graph were printed. -/
  | graphPrinted (nodes lines : Nat)

namespace Event

/-- The level of an event. -/
def level : Event → Level
  | .definitionRefused .. | .pluginReplaced .. | .pluginRejected .. => .warning
  | .cycleFound .. => .error
  | _ => .debug

/-- The name of an event. -/
def name : Event → String
  | .directorySearched .. => "load_plugin_definitions.directory"
  | .definitionRefused .. => "parse_plugin_definition.invalid"
  | .definitionRead .. => "parse_plugin_definition.completed"
  | .pluginReplaced .. => "register.duplicate_plugin"
  | .pluginRegistered .. => "register.completed"
  | .pluginRemoved .. => "unregister.completed"
  | .standalonePlugin .. => "build_graph.standalone_plugin"
  | .dependencyResolved .. => "build_graph.dependency_resolved"
  | .dependencyInvalid .. => "build_graph.dependency_invalid"
  | .graphBuilt .. => "build_graph.completed"
  | .nodeRejected .. => "sort_graph.rejecting"
  | .cycleFound .. => "sort_graph.circular_dependency"
  | .resolutionStarted .. => "resolve.started"
  | .pluginRejected .. => "resolve.plugin_rejected"
  | .resolutionCompleted .. => "resolve.completed"
  | .graphPrinted .. => "graph.completed"

/-- The fields of an event, in their order. -/
def fields : Event → List (String × Value)
  | .directorySearched path files => [("path", .text path), ("file_count", .nat files)]
  | .definitionRefused source findings => [("source", .text source), ("error_count", .nat findings)]
  | .definitionRead source plugin services imports =>
    [("source", .text source), ("plugin_id", .text plugin), ("service_count", .nat services),
      ("import_count", .nat imports)]
  | .pluginReplaced plugin => [("plugin_id", .text plugin)]
  | .pluginRegistered plugin services imports =>
    [("plugin_id", .text plugin), ("service_count", .nat services), ("import_count", .nat imports)]
  | .pluginRemoved plugin => [("plugin_id", .text plugin)]
  | .standalonePlugin plugin => [("plugin_id", .text plugin)]
  | .dependencyResolved provider importer service version =>
    [("provider", .text provider), ("importer", .text importer), ("service", .text service),
      ("version", .text version)]
  | .dependencyInvalid provider importer service status =>
    [("provider", .text provider), ("importer", .text importer), ("service", .text service),
      ("status", .text status.code)]
  | .graphBuilt nodes => [("node_count", .nat nodes)]
  | .nodeRejected node status cause =>
    [("plugin_id", .text node), ("status", .text status.code), ("cause", .text cause)]
  | .cycleFound cycle => [("cycle", .texts cycle)]
  | .resolutionStarted plugins => [("plugin_count", .nat plugins)]
  | .pluginRejected plugin status reason =>
    [("plugin_id", .text plugin), ("status", .text status.code), ("reason", .text reason)]
  | .resolutionCompleted order rejected =>
    [("order", .texts order), ("rejected", .texts rejected)]
  | .graphPrinted nodes lines => [("node_count", .nat nodes), ("line_count", .nat lines)]

end Event

end PluginOrder
