import PluginOrder.Graph.Build
import PluginOrder.Proofs.Ledger.Lookup

/-!
# What building a graph leaves behind

The graph of a catalogue is determined by two lists: the identifiers that the catalogue mentions,
and its edges, one for each import, plugin by plugin and import by import.  `get?_buildGraph` says
so: an identifier has a node if and only if it is mentioned, and its node is fresh and holds the
edges of which it is the provider, in the order of the list.  The nodes stand in the order in which
their identifiers are mentioned first (`keys_buildGraph`).

`Holds` is the invariant behind it.  It says the same of a graph under construction, and each
addition extends one of the two lists.

The catalogue that comes out is the one that went in with every import bound to what it was
matched with (`catalog_buildGraph`).
-/

namespace PluginOrder

/-! ## What a catalogue says -/

namespace Catalog

/-- The identifiers that a catalogue mentions: its keys, and the plugins that are asked for. -/
def mentions (catalog : Catalog) : List String :=
  catalog.entries.flatMap fun entry => entry.1 :: entry.2.imports.map (·.sourcePlugin)

/-- What matching an import with a catalogue comes to. -/
def outcome (c : Config) (catalog : Catalog) (i : Import) : Outcome :=
  i.validate c (catalog.get? i.sourcePlugin)

/-- The edge of an import. -/
def edgeOf (c : Config) (catalog : Catalog) (importer : String) (i : Import) : Edge :=
  Building.edgeOf importer i (catalog.outcome c i)

/-- The edges of all imports, in the order of the plugins and then of their imports. -/
def edges (c : Config) (catalog : Catalog) : List Edge :=
  catalog.entries.flatMap fun entry => entry.2.imports.map (catalog.edgeOf c entry.1)

/-- An import bound to what it is matched with. -/
def rebindImport (c : Config) (catalog : Catalog) (i : Import) : Import :=
  { i with target := (catalog.outcome c i).target? }

/-- A plugin with all its imports bound to what they are matched with. -/
def rebindPlugin (c : Config) (catalog : Catalog) (p : Plugin) : Plugin :=
  { p with imports := p.imports.map (catalog.rebindImport c) }

/-- The catalogue with every import bound to what it is matched with. -/
def rebind (c : Config) (catalog : Catalog) : Catalog :=
  catalog.mapValues fun _ p => catalog.rebindPlugin c p

end Catalog

/-! ## Graphs under construction -/

namespace Building

/-- A graph under construction holds exactly the given identifiers and edges. -/
structure Holds (b : Building) (ids : List String) (edges : List Edge) : Prop where
  keys_eq : b.graph.keys = ids.eraseDups
  get?_eq : ∀ id, b.graph.get? id =
    if id ∈ ids then
      some { Node.fresh id with dependents := edges.filter fun edge => edge.provider = id }
    else none
  provider_mem : ∀ edge ∈ edges, edge.provider ∈ ids

variable {b : Building} {ids : List String} {edges : List Edge}

theorem holds_empty : Holds ⟨∅, []⟩ [] [] where
  keys_eq := rfl
  get?_eq := by simp
  provider_mem := by simp

theorem Holds.report (h : Holds b ids edges) (event : Event) : Holds (b.report event) ids edges :=
  ⟨h.keys_eq, h.get?_eq, h.provider_mem⟩

theorem Holds.ensureNode (h : Holds b ids edges) (id : String) :
    Holds (b.ensureNode id) (ids ++ [id]) edges where
  keys_eq := by
    simp only [Building.ensureNode, Ledger.keys_ensure, h.keys_eq, List.mem_eraseDups,
      List.eraseDups_append]
    by_cases hmem : id ∈ ids <;> simp [hmem, List.removeAll, List.eraseDups_cons]
  get?_eq := by
    intro other
    simp only [Building.ensureNode, Ledger.get?_ensure, h.get?_eq other, List.mem_append,
      List.mem_singleton]
    by_cases hkey : id = other
    · subst hkey
      by_cases hmem : id ∈ ids
      · simp [hmem]
      · -- a new identifier is the provider of no edge so far
        have hnone : edges.filter (fun edge => edge.provider = id) = [] := by
          rw [List.filter_eq_nil_iff]
          intro edge hedge
          have hne : edge.provider ≠ id := fun heq => hmem (heq ▸ h.provider_mem edge hedge)
          simpa using hne
        simp [hmem, hnone, Node.fresh]
    · simp [hkey, Ne.symm hkey]
  provider_mem := fun edge hedge => List.mem_append_left _ (h.provider_mem edge hedge)

theorem Holds.addEdge (h : Holds b ids edges) {edge : Edge} (hmem : edge.provider ∈ ids) :
    Holds (b.addEdge edge) ids (edges ++ [edge]) where
  keys_eq := by rw [Building.addEdge, Ledger.keys_modify, h.keys_eq]
  get?_eq := by
    intro id
    simp only [Building.addEdge, Ledger.get?_modify, h.get?_eq id, List.filter_append]
    by_cases hkey : id = edge.provider
    · subst hkey
      simp [hmem, Node.addEdge]
    · have hne : ¬ edge.provider = id := fun heq => hkey heq.symm
      simp [hkey, hne]
  provider_mem := by
    intro other hother
    rcases List.mem_append.mp hother with hold | hnew
    · exact h.provider_mem other hold
    · rw [List.mem_singleton.mp hnew]
      exact hmem

variable (c : Config) (catalog : Catalog)

theorem Holds.addImport (h : Holds b ids edges) (importer : String) (i : Import) :
    Holds (addImport c catalog importer b i).1 (ids ++ [i.sourcePlugin])
      (edges ++ [catalog.edgeOf c importer i]) := by
  have hprovider : (catalog.edgeOf c importer i).provider ∈ ids ++ [i.sourcePlugin] := by
    simp [Catalog.edgeOf, Building.edgeOf]
  exact ((h.ensureNode i.sourcePlugin).addEdge hprovider).report _

theorem Holds.addImports (h : Holds b ids edges) (importer : String) (imports : List Import) :
    Holds (addImports c catalog importer b imports).1 (ids ++ imports.map (·.sourcePlugin))
      (edges ++ imports.map (catalog.edgeOf c importer)) := by
  induction imports generalizing b ids edges with
  | nil => simpa [Building.addImports] using h
  | cons i rest ih =>
      have hrest := ih (h.addImport c catalog importer i)
      simpa [Building.addImports, List.append_assoc] using hrest

theorem Holds.addPlugin (h : Holds b ids edges) (key : String) (p : Plugin) :
    Holds (addPlugin c catalog b key p).1 (ids ++ key :: p.imports.map (·.sourcePlugin))
      (edges ++ p.imports.map (catalog.edgeOf c key)) := by
  unfold Building.addPlugin
  by_cases himports : p.hasImports = true
  · have hall := (h.ensureNode key).addImports c catalog key p.imports
    simpa [himports, List.append_assoc] using hall
  · have hnone : p.imports = [] := by simpa [Plugin.hasImports] using himports
    simpa [himports, hnone] using (h.ensureNode key).report (.standalonePlugin key)

theorem Holds.foldl_addPlugin (h : Holds b ids edges) (entries : List (String × Plugin)) :
    Holds (entries.foldl (fun b entry => (Building.addPlugin c catalog b entry.1 entry.2).1) b)
      (ids ++ entries.flatMap fun entry => entry.1 :: entry.2.imports.map (·.sourcePlugin))
      (edges ++ entries.flatMap fun entry => entry.2.imports.map (catalog.edgeOf c entry.1)) := by
  induction entries generalizing b ids edges with
  | nil => simpa using h
  | cons entry rest ih =>
      have hrest := ih (h.addPlugin c catalog entry.1 entry.2)
      simpa [List.append_assoc] using hrest

theorem snd_addImports (importer : String) (b : Building) (imports : List Import) :
    (addImports c catalog importer b imports).2 = imports.map (catalog.rebindImport c) := by
  induction imports generalizing b with
  | nil => rfl
  | cons i rest ih => simp only [addImports, List.map_cons, ih]; rfl

theorem snd_addPlugin (b : Building) (key : String) (p : Plugin) :
    (addPlugin c catalog b key p).2 = catalog.rebindPlugin c p := by
  unfold addPlugin
  by_cases himports : p.hasImports = true
  · simp [himports, snd_addImports, Catalog.rebindPlugin]
  · have hnone : p.imports = [] := by simpa [Plugin.hasImports] using himports
    have hsame : { p with imports := [] } = p := by rw [← hnone]
    simp [himports, Catalog.rebindPlugin, hnone, hsame]

end Building

/-! ## The finished graph -/

namespace Catalog

variable (c : Config) (catalog : Catalog)

theorem graph_buildGraph : (catalog.buildGraph c).graph =
    (catalog.entries.foldl
      (fun b entry => (Building.addPlugin c catalog b entry.1 entry.2).1) ⟨∅, []⟩).graph := by
  rw [← Ledger.fst_traverse]
  rfl

/-- The nodes stand in the order in which their identifiers are mentioned first. -/
theorem keys_buildGraph : (catalog.buildGraph c).graph.keys = catalog.mentions.eraseDups := by
  rw [graph_buildGraph]
  exact (Building.holds_empty.foldl_addPlugin c catalog catalog.entries).keys_eq

/-- **The graph of a catalogue.**  The mentioned identifiers have nodes and no others do; the node
of an identifier is untouched and holds the edges of the imports that ask for it. -/
theorem get?_buildGraph (id : String) :
    (catalog.buildGraph c).graph.get? id =
      if id ∈ catalog.mentions then
        some { Node.fresh id with
          dependents := (catalog.edges c).filter fun edge => edge.provider = id }
      else none := by
  rw [graph_buildGraph]
  exact (Building.holds_empty.foldl_addPlugin c catalog catalog.entries).get?_eq id

/-- Building a graph binds every import anew. -/
theorem catalog_buildGraph : (catalog.buildGraph c).catalog = catalog.rebind c :=
  Ledger.snd_traverse (Building.snd_addPlugin c catalog) _ _

theorem get?_rebind (key : String) :
    (catalog.rebind c).get? key = (catalog.get? key).map (catalog.rebindPlugin c) :=
  Ledger.get?_mapValues _ _ _

theorem keys_rebind : (catalog.rebind c).keys = catalog.keys :=
  Ledger.keys_mapValues _ _

theorem mem_mentions {catalog : Catalog} {id : String} :
    id ∈ catalog.mentions ↔
      id ∈ catalog.keys ∨ ∃ key p, catalog.get? key = some p ∧ ∃ i ∈ p.imports,
        i.sourcePlugin = id := by
  simp only [mentions, List.mem_flatMap, List.mem_cons, List.mem_map, Prod.exists,
    Ledger.get?_eq_some_iff, Ledger.keys, exists_and_right, exists_eq_right]
  constructor
  · rintro ⟨key, p, hmem, rfl | himport⟩
    · exact Or.inl ⟨p, hmem⟩
    · exact Or.inr ⟨key, p, hmem, himport⟩
  · rintro (⟨p, hmem⟩ | ⟨key, p, hmem, himport⟩)
    · exact ⟨id, p, hmem, Or.inl rfl⟩
    · exact ⟨key, p, hmem, Or.inr himport⟩

theorem mem_edges {c : Config} {catalog : Catalog} {edge : Edge} :
    edge ∈ catalog.edges c ↔
      ∃ key p, catalog.get? key = some p ∧ ∃ i ∈ p.imports, catalog.edgeOf c key i = edge := by
  simp only [edges, List.mem_flatMap, List.mem_map, Prod.exists, Ledger.get?_eq_some_iff]

end Catalog

end PluginOrder
