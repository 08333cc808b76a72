import PluginOrder.Proofs.Graph.Imports
import Mathlib.Data.List.Forall2

/-!
# The graph shows the catalogue

Building a graph loses nothing of a catalogue and adds nothing to it (`depicts_buildGraph`).  The
identifiers with a node are those that the catalogue mentions.  The edges at a node are the imports
that ask for its identifier, one for one and in their order, and each edge says of its import
whether the catalogue serves it, and why not.

A provider may be asked for long before it is registered, or never be registered at all.  In the
first case its node has all its edges nevertheless, since the edges at a node are a filter of one
list that does not know of nodes.  In the second case nothing can serve the imports, and a plugin
that is not there imports nothing.
-/

namespace PluginOrder.Catalog

/-- The imports that ask for an identifier, with the keys of their plugins. -/
def requestsFor (catalog : Catalog) (id : String) : List (String × Import) :=
  catalog.entries.flatMap fun entry =>
    (entry.2.imports.filter fun i => i.sourcePlugin = id).map fun i => (entry.1, i)

/-- An edge at the node of an identifier shows an import of the plugin under a key. -/
structure Shows (c : Config) (catalog : Catalog) (id key : String) (i : Import) (edge : Edge) :
    Prop where
  provider_eq : edge.provider = id
  service_eq : edge.service = i.sourceName
  importer_eq : edge.importer = key
  localName_eq : edge.localName = i.localName
  range_eq : edge.range = i.versionRange
  valid_eq : edge.valid = (i.validate c (catalog.get? id)).isValid
  error_eq : edge.error = (i.validate c (catalog.get? id)).reason?

/-- A graph shows a catalogue and nothing else. -/
structure Depicts (c : Config) (catalog : Catalog) (g : Graph) : Prop where
  /-- The keys and the plugins that are asked for, in the order in which they are seen first. -/
  keys_eq : g.keys = (catalog.entries.flatMap fun entry =>
    entry.1 :: entry.2.imports.map fun i => i.sourcePlugin).eraseDups
  nodup : g.keys.Nodup
  fresh : ∀ id node, g.get? id = some node →
    node.id = id ∧ node.visited = false ∧ node.visiting = false ∧ node.valid = true ∧
      node.error = none
  dependents : ∀ id node, g.get? id = some node →
    List.Forall₂ (fun entry edge => catalog.Shows c id entry.1 entry.2 edge)
      (catalog.requestsFor id) node.dependents
  importer_mem : ∀ id node, g.get? id = some node → ∀ edge ∈ node.dependents, edge.importer ∈ g.keys
  error_iff : ∀ id node, g.get? id = some node →
    ∀ edge ∈ node.dependents, edge.error ≠ none ↔ edge.valid = false
  unregistered : ∀ id node, g.get? id = some node → id ∉ catalog.keys →
    (∀ edge ∈ node.dependents, edge.valid = false ∧
      edge.error = some ⟨.requiredPluginNotFound, id, none, .null⟩) ∧
    ∀ other otherNode, g.get? other = some otherNode →
      ∀ edge ∈ otherNode.dependents, edge.importer ≠ id

variable {c : Config} {catalog : Catalog} {id key : String} {i : Import} {edge : Edge}

/-! ## The edges at a node -/

/-- The edges of a provider are those of the imports that ask for it. -/
theorem filter_edges_provider (c : Config) (catalog : Catalog) (id : String) :
    (catalog.edges c).filter (fun edge => edge.provider = id) =
      (catalog.requestsFor id).map fun entry => catalog.edgeOf c entry.1 entry.2 := by
  simp only [edges, requestsFor, List.filter_flatMap, List.map_flatMap, List.filter_map,
    List.map_map]
  rfl

theorem mem_requestsFor :
    (key, i) ∈ catalog.requestsFor id ↔
      ∃ p, (key, p) ∈ catalog.entries ∧ i ∈ p.imports ∧ i.sourcePlugin = id := by
  simp [requestsFor]

theorem shows_edgeOf (h : i.sourcePlugin = id) :
    catalog.Shows c id key i (catalog.edgeOf c key i) := by
  subst h
  exact ⟨rfl, rfl, rfl, rfl, rfl, rfl, rfl⟩

theorem Shows.error_iff (h : catalog.Shows c id key i edge) :
    edge.error ≠ none ↔ edge.valid = false := by
  rw [h.error_eq, h.valid_eq]
  cases i.validate c (catalog.get? id) <;> simp [Outcome.reason?, Outcome.isValid]

theorem Shows.unregistered (h : catalog.Shows c id key i edge) (hi : i.sourcePlugin = id)
    (hid : id ∉ catalog.keys) :
    edge.valid = false ∧ edge.error = some ⟨.requiredPluginNotFound, id, none, .null⟩ := by
  have hnone : catalog.get? id = none := Ledger.get?_eq_none_iff.mpr hid
  rw [h.valid_eq, h.error_eq, hnone, ← hi]
  exact ⟨rfl, rfl⟩

/-- Whatever stands at a node shows an import of a registered plugin. -/
theorem exists_shows {node : Node} (hnode : (catalog.buildGraph c).graph.get? id = some node)
    (hedge : edge ∈ node.dependents) :
    ∃ key i, key ∈ catalog.keys ∧ i.sourcePlugin = id ∧ catalog.Shows c id key i edge := by
  rw [get?_buildGraph] at hnode
  split at hnode
  · cases hnode
    rw [filter_edges_provider] at hedge
    obtain ⟨⟨key, i⟩, hmem, rfl⟩ := List.mem_map.mp hedge
    obtain ⟨p, hp, _, hsource⟩ := mem_requestsFor.mp hmem
    exact ⟨key, i, List.mem_map_of_mem hp, hsource, shows_edgeOf hsource⟩
  · cases hnode

/-! ## The graph -/

/-- **The graph of a catalogue shows the catalogue and nothing else.** -/
theorem depicts_buildGraph (c : Config) (catalog : Catalog) :
    catalog.Depicts c (catalog.buildGraph c).graph := by
  have hmentions := keys_buildGraph c catalog
  constructor
  case keys_eq => exact hmentions
  case nodup => exact (catalog.buildGraph c).graph.nodup_keys
  case fresh =>
    intro id node hnode
    rw [get?_buildGraph] at hnode
    split at hnode
    · cases hnode
      exact ⟨rfl, rfl, rfl, rfl, rfl⟩
    · cases hnode
  case dependents =>
    intro id node hnode
    rw [get?_buildGraph] at hnode
    split at hnode
    · cases hnode
      rw [filter_edges_provider, List.forall₂_map_right_iff, List.forall₂_same]
      -- the edges of a node and the requests for it run in the same order, so compare them in pairs
      intro (key, i) hmem
      obtain ⟨_, _, _, hsource⟩ := mem_requestsFor.mp hmem
      exact shows_edgeOf hsource
    · cases hnode
  case importer_mem =>
    intro id node hnode edge hedge
    obtain ⟨key, i, hkey, _, hshows⟩ := exists_shows hnode hedge
    rw [hshows.importer_eq, hmentions, List.mem_eraseDups, mem_mentions]
    exact Or.inl hkey
  case error_iff =>
    intro id node hnode edge hedge
    obtain ⟨key, i, _, _, hshows⟩ := exists_shows hnode hedge
    exact hshows.error_iff
  case unregistered =>
    intro id node hnode hid
    constructor
    · intro edge hedge
      obtain ⟨key, i, _, hsource, hshows⟩ := exists_shows hnode hedge
      exact hshows.unregistered hsource hid
    · intro other otherNode hother edge hedge heq
      obtain ⟨key, i, hkey, _, hshows⟩ := exists_shows hother hedge
      rw [hshows.importer_eq] at heq
      -- an edge has a registered importer, and `id` is not registered
      exact hid (heq ▸ hkey)

end PluginOrder.Catalog
