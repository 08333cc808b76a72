import PluginOrder.Ledger
import PluginOrder.Plugin.Rejection

/-!
# The dependency graph

A node stands for an identifier, registered or only asked for.  An edge stands for an import and
is kept at the node of its provider, so that following edges leads from providers to the plugins
that depend on them.

Besides its edges a node carries the marks of the walk that sorts the graph.
-/

namespace PluginOrder

/-- An import, seen from its provider. -/
structure Edge where
  provider : String
  /-- The name of the service at the provider. -/
  service : String
  importer : String
  /-- The name of the service at the importer. -/
  localName : String
  range : Value
  /-- Whether the provider can serve the import. -/
  valid : Bool
  /-- Why it cannot. -/
  error : Option Rejection

/-- An identifier in the graph. -/
structure Node where
  id : String
  /-- The edges to the plugins that depend on this one. -/
  dependents : List Edge
  /-- Whether the node was left at least once. -/
  visited : Bool
  /-- Whether the walk stands on the node or beyond it. -/
  visiting : Bool
  /-- The verdict so far. -/
  valid : Bool
  /-- The reason of a negative verdict. -/
  error : Option Rejection

/-- A graph: its nodes in the order in which they were first met. -/
abbrev Graph := Ledger Node

namespace Node

/-- A node without edges that no walk has touched. -/
def fresh (id : String) : Node := ⟨id, [], false, false, true, none⟩

/-- Whether a link into the node asks for a visit: it was never visited, or it is valid and the
link is not.  A verdict is never raised again. -/
def needsVisit (node : Node) (incoming : Bool) : Bool :=
  !node.visited || (node.valid && !incoming)

/-- The node with one more edge. -/
def addEdge (node : Node) (edge : Edge) : Node :=
  { node with dependents := node.dependents ++ [edge] }

end Node

/-- The number of edges. -/
def Graph.edgeCount (g : Graph) : Nat :=
  (g.values.map fun node => node.dependents.length).foldr (· + ·) 0

end PluginOrder
