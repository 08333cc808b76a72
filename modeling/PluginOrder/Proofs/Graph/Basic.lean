import PluginOrder.Graph.Basic
import PluginOrder.Proofs.Ledger.Lookup

/-!
# What a graph says about its nodes

Three notions that need no walk.  A node feeds another one if it has an edge to it.  A node is
doomed if an invalid edge leads to it, or any edge from a doomed node: this is the verdict that a
walk is to find, as the least set closed under two rules.  A graph is untouched if all its nodes
are, if its edges lead to nodes, and if its invalid edges have reasons; the graph of a catalogue
is, and a walk over such a graph can only halt at a cycle.
-/

namespace PluginOrder.Graph

/-- A node has an edge to another one. -/
def Feeds (g : Graph) (provider importer : String) : Prop :=
  ∃ node, g.get? provider = some node ∧ ∃ edge ∈ node.dependents, edge.importer = importer

/-- A node that cannot be valid: a bad edge leads to it, or an edge from a node that cannot be
valid. -/
inductive Doomed (g : Graph) : String → Prop
  | bad {provider : String} {node : Node} {edge : Edge} (hnode : g.get? provider = some node)
      (hedge : edge ∈ node.dependents) (hinvalid : edge.valid = false) : Doomed g edge.importer
  | cascade {provider : String} {node : Node} {edge : Edge} (hnode : g.get? provider = some node)
      (hedge : edge ∈ node.dependents) (hprovider : Doomed g provider) : Doomed g edge.importer

/-- No walk has touched the graph, its edges lead to nodes, and invalid edges have reasons. -/
structure Untouched (g : Graph) : Prop where
  fresh : ∀ {key : String} {node : Node}, g.get? key = some node →
    node = { Node.fresh key with dependents := node.dependents }
  importer_mem : ∀ {key : String} {node : Node}, g.get? key = some node →
    ∀ edge ∈ node.dependents, edge.importer ∈ g.keys
  error_ne_none : ∀ {key : String} {node : Node}, g.get? key = some node →
    ∀ edge ∈ node.dependents, edge.valid = false → edge.error ≠ none

/-- The node under a key was left at least once. -/
def Left (g : Graph) (key : String) : Prop :=
  ∃ node, g.get? key = some node ∧ node.visited = true

/-- The node under a key has a negative verdict. -/
def Denied (g : Graph) (key : String) : Prop :=
  ∃ node, g.get? key = some node ∧ node.valid = false

/-- Two graphs have the same nodes with the same edges, whatever a walk did to them. -/
def SameShape (g nodes : Graph) : Prop :=
  ∀ key, (nodes.get? key).map (fun node => (node.id, node.dependents)) =
    (g.get? key).map fun node => (node.id, node.dependents)

variable {g nodes : Graph} {key : String}

/-! ## Untouched nodes -/

section Untouched

variable {node : Node}

theorem Untouched.id_eq (hg : g.Untouched) (hnode : g.get? key = some node) : node.id = key := by
  rw [hg.fresh hnode]
  rfl

theorem Untouched.visited_eq (hg : g.Untouched) (hnode : g.get? key = some node) :
    node.visited = false := by
  rw [hg.fresh hnode]
  rfl

theorem Untouched.visiting_eq (hg : g.Untouched) (hnode : g.get? key = some node) :
    node.visiting = false := by
  rw [hg.fresh hnode]
  rfl

theorem Untouched.valid_eq (hg : g.Untouched) (hnode : g.get? key = some node) :
    node.valid = true := by
  rw [hg.fresh hnode]
  rfl

theorem Untouched.not_left (hg : g.Untouched) (key : String) : ¬ g.Left key := by
  rintro ⟨node, hnode, hvisited⟩
  exact Bool.false_ne_true ((hg.visited_eq hnode).symm.trans hvisited)

theorem Untouched.not_denied (hg : g.Untouched) (key : String) : ¬ g.Denied key := by
  rintro ⟨node, hnode, hvalid⟩
  exact Bool.false_ne_true (hvalid.symm.trans (hg.valid_eq hnode))

end Untouched

/-! ## Graphs of the same shape -/

theorem SameShape.refl (g : Graph) : g.SameShape g := fun _ => rfl

theorem SameShape.trans {later : Graph} (h : g.SameShape nodes) (hlater : nodes.SameShape later) :
    g.SameShape later :=
  fun key => (hlater key).trans (h key)

theorem SameShape.of_get? (h : g.SameShape nodes) {node : Node}
    (hnode : nodes.get? key = some node) :
    ∃ node₀, g.get? key = some node₀ ∧ node₀.id = node.id ∧
      node₀.dependents = node.dependents := by
  have hkey := h key
  rw [hnode, Option.map_some] at hkey
  obtain ⟨node₀, hnode₀, heq⟩ := Option.map_eq_some_iff.mp hkey.symm
  exact ⟨node₀, hnode₀, (Prod.mk.injEq ..).mp heq⟩

theorem SameShape.get? (h : g.SameShape nodes) {node₀ : Node} (hnode₀ : g.get? key = some node₀) :
    ∃ node, nodes.get? key = some node ∧ node.id = node₀.id ∧
      node.dependents = node₀.dependents := by
  have hkey := h key
  rw [hnode₀, Option.map_some] at hkey
  obtain ⟨node, hnode, heq⟩ := Option.map_eq_some_iff.mp hkey
  exact ⟨node, hnode, (Prod.mk.injEq ..).mp heq⟩

theorem SameShape.mem_keys (h : g.SameShape nodes) : key ∈ nodes.keys ↔ key ∈ g.keys := by
  rw [Ledger.mem_keys_iff, Ledger.mem_keys_iff]
  constructor
  · rintro ⟨node, hnode⟩
    obtain ⟨node₀, hnode₀, _⟩ := h.of_get? hnode
    exact ⟨node₀, hnode₀⟩
  · rintro ⟨node₀, hnode₀⟩
    obtain ⟨node, hnode, _⟩ := h.get? hnode₀
    exact ⟨node, hnode⟩

theorem SameShape.modify (h : g.SameShape nodes) (key : String) {f : Node → Node}
    (hid : ∀ node, (f node).id = node.id)
    (hdependents : ∀ node, (f node).dependents = node.dependents) :
    g.SameShape (nodes.modify key f) := by
  intro other
  rw [← h other, Ledger.get?_modify]
  split
  · simp [Function.comp_def, hid, hdependents]
  · rfl

theorem SameShape.feeds (h : g.SameShape nodes) {node : Node} {edge : Edge}
    (hnode : nodes.get? key = some node) (hedge : edge ∈ node.dependents) :
    g.Feeds key edge.importer := by
  obtain ⟨node₀, hnode₀, _, hsame⟩ := h.of_get? hnode
  exact ⟨node₀, hnode₀, edge, hsame ▸ hedge, rfl⟩

/-! ## Marks and verdicts -/

theorem Left.visited_eq (h : nodes.Left key) {node : Node} (hnode : nodes.get? key = some node) :
    node.visited = true := by
  obtain ⟨other, hother, hvisited⟩ := h
  rw [hnode] at hother
  cases hother
  exact hvisited

theorem Denied.valid_eq (h : nodes.Denied key) {node : Node} (hnode : nodes.get? key = some node) :
    node.valid = false := by
  obtain ⟨other, hother, hinvalid⟩ := h
  rw [hnode] at hother
  cases hother
  exact hinvalid

/-! ## Marks after a change -/

theorem Left.modify (h : nodes.Left key) (other : String) {f : Node → Node}
    (hf : ∀ node, node.visited = true → (f node).visited = true) :
    Left (nodes.modify other f) key := by
  obtain ⟨node, hnode, hvisited⟩ := h
  by_cases hkey : key = other
  · subst hkey
    exact ⟨f node, by rw [Ledger.get?_modify_self, hnode]; rfl, hf node hvisited⟩
  · exact ⟨node, by rw [Ledger.get?_modify, if_neg hkey, hnode], hvisited⟩

theorem Denied.modify (h : nodes.Denied key) (other : String) {f : Node → Node}
    (hf : ∀ node, nodes.get? other = some node → node.valid = false → (f node).valid = false) :
    Denied (nodes.modify other f) key := by
  obtain ⟨node, hnode, hvalid⟩ := h
  by_cases hkey : key = other
  · subst hkey
    exact ⟨f node, by rw [Ledger.get?_modify_self, hnode]; rfl, hf node hnode hvalid⟩
  · exact ⟨node, by rw [Ledger.get?_modify, if_neg hkey, hnode], hvalid⟩

end PluginOrder.Graph
