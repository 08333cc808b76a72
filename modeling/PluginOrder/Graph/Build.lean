import PluginOrder.Graph.Basic
import PluginOrder.Journal.Event
import PluginOrder.Plugin.Binding

/-!
# Building the graph

The graph of a catalogue of plugins: every key has a node and so has every plugin that is asked
for, and every import becomes an edge.  On the way every import is bound to the service that it
was matched with, or to none, whatever it was bound to before.
-/

namespace PluginOrder

/-- Registered plugins under their keys, in the order of registration. -/
abbrev Catalog := Ledger Plugin

/-- A graph under construction, and what was reported so far. -/
structure Building where
  graph : Graph
  journal : List Event

namespace Building

/-- Reports an event. -/
def report (b : Building) (event : Event) : Building := { b with journal := b.journal ++ [event] }

/-- Makes sure that an identifier has a node. -/
def ensureNode (b : Building) (id : String) : Building :=
  { b with graph := b.graph.ensure id (.fresh id) }

/-- Adds an edge to the node of its provider. -/
def addEdge (b : Building) (edge : Edge) : Building :=
  { b with graph := b.graph.modify edge.provider (·.addEdge edge) }

/-- The edge of an import. -/
def edgeOf (importer : String) (i : Import) (outcome : Outcome) : Edge where
  provider := i.sourcePlugin
  service := i.sourceName
  importer := importer
  localName := i.localName
  range := i.versionRange
  valid := outcome.isValid
  error := outcome.reason?

/-- What is reported on an import. -/
def eventOf (importer : String) (i : Import) : Outcome → Event
  | .bound service => .dependencyResolved i.sourcePlugin importer i.sourceName service.version
  | .refused reason => .dependencyInvalid i.sourcePlugin importer i.sourceName reason.status

/-- Adds an import of a plugin and binds it. -/
def addImport (c : Config) (catalog : Catalog) (importer : String) (b : Building) (i : Import) :
    Building × Import :=
  let outcome := i.validate c (catalog.get? i.sourcePlugin)
  (((b.ensureNode i.sourcePlugin).addEdge (edgeOf importer i outcome)).report
      (eventOf importer i outcome),
    { i with target := outcome.target? })

/-- Adds imports of a plugin, in their order. -/
def addImports (c : Config) (catalog : Catalog) (importer : String) :
    Building → List Import → Building × List Import
  | b, [] => (b, [])
  | b, i :: rest =>
    let (b, i) := addImport c catalog importer b i
    let (b, rest) := addImports c catalog importer b rest
    (b, i :: rest)

/-- Adds a plugin with its imports. -/
def addPlugin (c : Config) (catalog : Catalog) (b : Building) (key : String) (p : Plugin) :
    Building × Plugin :=
  let b := b.ensureNode key
  if p.hasImports then
    let (b, imports) := addImports c catalog key b p.imports
    (b, { p with imports })
  else (b.report (.standalonePlugin key), p)

end Building

/-- A finished graph. -/
structure BuiltGraph where
  graph : Graph
  /-- The catalogue with every import bound anew. -/
  catalog : Catalog
  journal : List Event

/-- Builds the graph of a catalogue. -/
def Catalog.buildGraph (c : Config) (catalog : Catalog) : BuiltGraph :=
  let (b, bound) := catalog.traverse (Building.addPlugin c catalog) ⟨∅, []⟩
  ⟨b.graph, bound, b.journal ++ [.graphBuilt b.graph.size]⟩

end PluginOrder
