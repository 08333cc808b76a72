import PluginOrder.Proofs.Graph.Imports
import PluginOrder.Proofs.Walk.Record
import PluginOrder.Resolution
import Mathlib.Order.WellFounded

/-!
# From walks to resolutions

The graph of a catalogue is untouched, its edges run from providers to importers, and its doomed
nodes are the broken keys of the catalogue: those with a failing import, or with an import from a
broken plugin.  So what is known of sorts says what a resolution accepts and rejects:
`mem_accepted_iff` and `mem_rejected_iff` for the members, and `lt_of_asks` for the order, which is
that of the walk with some identifiers left out.
-/

namespace PluginOrder

/-- The reject that a walk makes of an entry of a catalogue, if it holds a reason for its key. -/
def Walk.rejectOf (w : Walk) (entry : String × Plugin) : Option Reject :=
  (w.rejects.get? entry.1).map fun reason => ⟨entry.1, reason, entry.2⟩

namespace Catalog

/-- A registered plugin imports from another one, registered or not. -/
def Asks (catalog : Catalog) (key source : String) : Prop :=
  ∃ p, catalog.get? key = some p ∧ ∃ i ∈ p.imports, i.sourcePlugin = source

/-- Whether an import can be served. -/
def Serves (c : Config) (catalog : Catalog) (i : Import) : Prop :=
  (i.validate c (catalog.get? i.sourcePlugin)).isValid = true

/-- A registered plugin with an import that fails, or with an import from a broken plugin. -/
inductive Broken (c : Config) (catalog : Catalog) : String → Prop
  | failing {key : String} {p : Plugin} {i : Import} (hplugin : catalog.get? key = some p)
      (himport : i ∈ p.imports) (hfails : ¬ catalog.Serves c i) : Broken c catalog key
  | cascade {key : String} {p : Plugin} {i : Import} (hplugin : catalog.get? key = some p)
      (himport : i ∈ p.imports) (hsource : Broken c catalog i.sourcePlugin) :
      Broken c catalog key

variable {c : Config} {catalog : Catalog}

/-! ## Edges and imports -/

/-- The nodes of the graph and their edges. -/
theorem get?_buildGraph_some {id : String} {node : Node}
    (hnode : (catalog.buildGraph c).graph.get? id = some node) :
    node = { Node.fresh id with
      dependents := (catalog.edges c).filter fun edge => edge.provider = id } := by
  rw [get?_buildGraph] at hnode
  split at hnode
  · exact (Option.some_inj.mp hnode).symm
  · cases hnode

/-- An edge at a node is an import that asks for its identifier. -/
theorem mem_dependents_iff {id : String} {node : Node} {edge : Edge}
    (hnode : (catalog.buildGraph c).graph.get? id = some node) :
    edge ∈ node.dependents ↔
      ∃ key p, catalog.get? key = some p ∧ ∃ i ∈ p.imports,
        i.sourcePlugin = id ∧ catalog.edgeOf c key i = edge := by
  rw [get?_buildGraph_some hnode]
  simp only [List.mem_filter, mem_edges, decide_eq_true_eq]
  constructor
  · rintro ⟨⟨key, p, hp, i, hi, rfl⟩, hprovider⟩
    exact ⟨key, p, hp, i, hi, hprovider, rfl⟩
  · rintro ⟨key, p, hp, i, hi, hsource, rfl⟩
    exact ⟨⟨key, p, hp, i, hi, rfl⟩, hsource⟩

/-- An edge is kept at the node of its provider. -/
theorem provider_eq {id : String} {node : Node} {edge : Edge}
    (hnode : (catalog.buildGraph c).graph.get? id = some node) (hedge : edge ∈ node.dependents) :
    edge.provider = id := by
  obtain ⟨key, p, _, i, _, rfl, rfl⟩ := (mem_dependents_iff hnode).mp hedge
  rfl

/-- Every import of a registered plugin has its edge. -/
theorem exists_edge {key : String} {p : Plugin} {i : Import} (hp : catalog.get? key = some p)
    (hi : i ∈ p.imports) :
    ∃ node, (catalog.buildGraph c).graph.get? i.sourcePlugin = some node ∧
      catalog.edgeOf c key i ∈ node.dependents := by
  have hmem : i.sourcePlugin ∈ catalog.mentions :=
    mem_mentions.mpr (Or.inr ⟨key, p, hp, i, hi, rfl⟩)
  have hnode := get?_buildGraph c catalog i.sourcePlugin
  rw [if_pos hmem] at hnode
  exact ⟨_, hnode, (mem_dependents_iff hnode).mpr ⟨key, p, hp, i, hi, rfl, rfl⟩⟩

theorem mem_keys_buildGraph {id : String} :
    id ∈ (catalog.buildGraph c).graph.keys ↔ id ∈ catalog.mentions := by
  rw [Ledger.mem_keys_iff]
  simp [get?_buildGraph]

theorem untouched_buildGraph (c : Config) (catalog : Catalog) :
    (catalog.buildGraph c).graph.Untouched where
  fresh := by
    intro key node hnode
    rw [get?_buildGraph_some hnode]
  importer_mem := by
    intro key node hnode edge hedge
    obtain ⟨importer, p, hp, i, _, _, rfl⟩ := (mem_dependents_iff hnode).mp hedge
    exact mem_keys_buildGraph.mpr (mem_mentions.mpr (Or.inl (Ledger.mem_keys_iff.mpr ⟨p, hp⟩)))
  error_ne_none := by
    intro key node hnode edge hedge hinvalid
    obtain ⟨importer, p, _, i, _, _, rfl⟩ := (mem_dependents_iff hnode).mp hedge
    revert hinvalid
    simp only [edgeOf, Building.edgeOf]
    cases catalog.outcome c i <;> simp [Outcome.isValid, Outcome.reason?]

/-- Edges run from providers to importers. -/
theorem feeds_buildGraph {provider importer : String} :
    (catalog.buildGraph c).graph.Feeds provider importer ↔ catalog.Asks importer provider := by
  constructor
  · rintro ⟨node, hnode, edge, hedge, rfl⟩
    obtain ⟨key, p, hp, i, hi, hsource, rfl⟩ := (mem_dependents_iff hnode).mp hedge
    exact ⟨p, hp, i, hi, hsource⟩
  · rintro ⟨p, hp, i, hi, rfl⟩
    obtain ⟨node, hnode, hedge⟩ := exists_edge (c := c) hp hi
    exact ⟨node, hnode, _, hedge, rfl⟩

/-- The doomed nodes are the broken plugins. -/
theorem doomed_buildGraph {key : String} :
    (catalog.buildGraph c).graph.Doomed key ↔ catalog.Broken c key := by
  constructor
  · intro hdoomed
    induction hdoomed with
    | bad hnode hedge hinvalid =>
        obtain ⟨key, p, hp, i, hi, _, rfl⟩ := (mem_dependents_iff hnode).mp hedge
        refine .failing hp hi fun hserves => ?_
        exact Bool.false_ne_true (hinvalid.symm.trans hserves)
    | cascade hnode hedge _ ih =>
        obtain ⟨key, p, hp, i, hi, rfl, rfl⟩ := (mem_dependents_iff hnode).mp hedge
        exact .cascade hp hi ih
  · intro hbroken
    induction hbroken with
    | failing hp hi hfails =>
        obtain ⟨node, hnode, hedge⟩ := exists_edge (c := c) hp hi
        exact .bad hnode hedge (Bool.eq_false_iff.mpr hfails)
    | cascade hp hi _ ih =>
        obtain ⟨node, hnode, hedge⟩ := exists_edge (c := c) hp hi
        exact .cascade hnode hedge ih

/-- An import is only served by a registered plugin. -/
theorem Serves.mem_keys {i : Import} (h : catalog.Serves c i) : i.sourcePlugin ∈ catalog.keys := by
  unfold Serves at h
  cases hsource : catalog.get? i.sourcePlugin with
  | none => simp [hsource, Import.validate, Outcome.isValid] at h
  | some p => exact Ledger.mem_keys_iff.mpr ⟨p, hsource⟩

/-- Only registered plugins are broken. -/
theorem Broken.mem_keys {key : String} (h : catalog.Broken c key) : key ∈ catalog.keys := by
  cases h with
  | failing hp _ _ | cascade hp _ _ => exact Ledger.mem_keys_iff.mpr ⟨_, hp⟩

/-! ## What a resolution keeps -/

/-- A resolution succeeds as the sort of its graph does. -/
theorem result_resolve (c : Config) (catalog : Catalog) :
    (catalog.resolve c).result =
      match (catalog.buildGraph c).graph.sort with
      | .ok w => .ok ((catalog.rebind c).collect w)
      | .error halt => .error halt.fault := by
  rw [← catalog_buildGraph, resolve]
  cases (catalog.buildGraph c).graph.sort <;> rfl

/-- A resolution leaves the catalogue with its imports bound, whether or not it succeeds. -/
theorem catalog_resolve (c : Config) (catalog : Catalog) :
    (catalog.resolve c).catalog = catalog.rebind c := by
  rw [← catalog_buildGraph, resolve]
  cases (catalog.buildGraph c).graph.sort <;> rfl

theorem result_ok {r : Resolution} (h : (catalog.resolve c).result = .ok r) :
    ∃ w, (catalog.buildGraph c).graph.sort = .ok w ∧ (catalog.rebind c).collect w = r := by
  rw [result_resolve] at h
  cases hsort : (catalog.buildGraph c).graph.sort with
  | ok w =>
      rw [hsort] at h
      exact ⟨w, rfl, Except.ok.inj h⟩
  | error halt =>
      rw [hsort] at h
      cases h

theorem result_error {fault : WalkFault} (h : (catalog.resolve c).result = .error fault) :
    ∃ halt, (catalog.buildGraph c).graph.sort = .error halt ∧ halt.fault = fault := by
  rw [result_resolve] at h
  cases hsort : (catalog.buildGraph c).graph.sort with
  | ok w =>
      rw [hsort] at h
      cases h
  | error halt =>
      rw [hsort] at h
      exact ⟨halt, rfl, Except.error.inj h⟩

section Accept

variable {rejects : Ledger Rejection}

theorem accept_sublist (taken order : List String) :
    ((catalog.accept rejects taken order).map Prod.fst).Sublist order := by
  induction order generalizing taken with
  | nil => exact List.Sublist.refl _
  | cons id rest ih =>
      unfold accept
      split
      · exact (ih taken).cons id
      · split
        · exact (ih taken).cons id
        · exact (ih (id :: taken)).cons_cons id

theorem get?_of_mem_accept {taken order : List String} {key : String} {p : Plugin}
    (hmem : (key, p) ∈ catalog.accept rejects taken order) :
    catalog.get? key = some p ∧ key ∉ rejects.keys := by
  induction order generalizing taken with
  | nil => cases hmem
  | cons id rest ih =>
      unfold accept at hmem
      split at hmem
      · exact ih hmem
      · rename_i hskip
        rw [Bool.or_eq_true, not_or] at hskip
        split at hmem
        · exact ih hmem
        · rename_i p' hp'
          rcases List.mem_cons.mp hmem with heq | hrest
          · cases heq
            exact ⟨hp', fun hrejected => hskip.1 (Ledger.contains_iff.mpr hrejected)⟩
          · exact ih hrest

/-- In an order without repetitions, a registered identifier that is not rejected is accepted. -/
theorem mem_accept {taken order : List String} {key : String} {p : Plugin}
    (hnodup : order.Nodup) (hmem : key ∈ order) (htaken : key ∉ taken)
    (hrejects : key ∉ rejects.keys) (hp : catalog.get? key = some p) :
    (key, p) ∈ catalog.accept rejects taken order := by
  induction order generalizing taken with
  | nil => cases hmem
  | cons id rest ih =>
      rw [List.nodup_cons] at hnodup
      unfold accept
      rcases List.mem_cons.mp hmem with rfl | hrest
      · have hkeep : ¬ (rejects.contains key || taken.contains key) = true := by
          rw [Bool.or_eq_true, Ledger.contains_iff, List.contains_iff_mem]
          exact not_or.mpr ⟨hrejects, htaken⟩
        rw [if_neg hkeep, hp]
        exact List.mem_cons_self
      · -- the identifiers before it are other ones, so they do not take its place
        have hne : key ≠ id := fun heq => hnodup.1 (heq ▸ hrest)
        split
        · exact ih hnodup.2 hrest htaken
        · split
          · exact ih hnodup.2 hrest htaken
          · exact List.mem_cons_of_mem _
              (ih hnodup.2 hrest (List.not_mem_cons_of_ne_of_not_mem hne htaken))

/-- What is accepted of an order under an identifier. -/
def installable? (catalog : Catalog) (rejects : Ledger Rejection) (id : String) :
    Option (String × Plugin) :=
  if rejects.contains id then none else (catalog.get? id).map fun p => (id, p)

theorem eq_of_installable? {id : String} {entry : String × Plugin}
    (h : catalog.installable? rejects id = some entry) : entry.1 = id ∧ id ∈ catalog.keys := by
  unfold installable? at h
  split at h
  · cases h
  · obtain ⟨p, hp, rfl⟩ := Option.map_eq_some_iff.mp h
    exact ⟨rfl, Ledger.mem_keys_iff.mpr ⟨p, hp⟩⟩

/-- In an order without repetitions, what is accepted is decided for each identifier on its own. -/
theorem accept_eq_filterMap {taken order : List String} (hnodup : order.Nodup)
    (htaken : ∀ id ∈ order, id ∉ taken) :
    catalog.accept rejects taken order = order.filterMap (catalog.installable? rejects) := by
  induction order generalizing taken with
  | nil => rfl
  | cons id rest ih =>
      rw [List.nodup_cons] at hnodup
      rw [List.forall_mem_cons] at htaken
      have hskip : taken.contains id = false := by
        rw [← Bool.not_eq_true, List.contains_iff_mem]
        exact htaken.1
      have hrest : ∀ other ∈ rest, other ∉ id :: taken := fun other hother =>
        List.not_mem_cons_of_ne_of_not_mem (fun heq => hnodup.1 (heq ▸ hother))
          (htaken.2 other hother)
      simp only [accept, hskip, Bool.or_false, List.filterMap_cons, installable?]
      cases rejects.contains id with
      | true => exact ih hnodup.2 htaken.2
      | false =>
          cases catalog.get? id with
          | none => exact ih hnodup.2 htaken.2
          | some p => exact congrArg ((id, p) :: ·) (ih hnodup.2 hrest)

end Accept

/-- What a sort comes to, for the graph of a catalogue. -/
theorem sorted_of_sort {w : Walk} (h : (catalog.buildGraph c).graph.sort = .ok w) :
    (catalog.buildGraph c).graph.Sorted w :=
  (untouched_buildGraph c catalog).sorted h

/-- What is accepted of a sorted graph, identifier by identifier. -/
theorem accepted_collect {w : Walk} (h : (catalog.buildGraph c).graph.sort = .ok w) :
    ((catalog.rebind c).collect w).accepted =
      w.finished.filterMap ((catalog.rebind c).installable? w.rejects) :=
  accept_eq_filterMap (sorted_of_sort h).nodup fun _ _ => List.not_mem_nil

/-- **What is accepted.**  The plugins under the registered keys that are not broken, as they are
after the resolution. -/
theorem mem_accepted_iff {r : Resolution} (h : (catalog.resolve c).result = .ok r) {key : String}
    {p : Plugin} :
    (key, p) ∈ r.accepted ↔ (catalog.rebind c).get? key = some p ∧ ¬ catalog.Broken c key := by
  obtain ⟨w, hsort, rfl⟩ := result_ok h
  have hsorted := sorted_of_sort hsort
  rw [← doomed_buildGraph, ← hsorted.mem_rejects_iff]
  constructor
  · exact get?_of_mem_accept
  · rintro ⟨hp, hrejects⟩
    have hkey : key ∈ (catalog.buildGraph c).graph.keys := by
      rw [mem_keys_buildGraph, mem_mentions, ← keys_rebind c]
      exact Or.inl (Ledger.mem_keys_iff.mpr ⟨p, hp⟩)
    have hfinished := hsorted.mem_finished hkey (hsorted.mem_rejects_iff.not.mp hrejects)
    exact mem_accept hsorted.nodup hfinished List.not_mem_nil hrejects hp

theorem mem_accepted_keys_iff {r : Resolution} (h : (catalog.resolve c).result = .ok r)
    {key : String} :
    key ∈ r.accepted.map Prod.fst ↔ key ∈ catalog.keys ∧ ¬ catalog.Broken c key := by
  rw [← keys_rebind c, Ledger.mem_keys_iff]
  simp only [List.mem_map, Prod.exists, exists_and_right, exists_eq_right, mem_accepted_iff h]

theorem rejects_collect (catalog : Catalog) (w : Walk) :
    (catalog.collect w).rejects = catalog.entries.filterMap w.rejectOf :=
  rfl

/-- The rejects are the keys of the catalogue for which the walk holds a reason. -/
theorem rejected_collect (catalog : Catalog) (w : Walk) :
    (catalog.collect w).rejected = catalog.keys.filter w.rejects.contains := by
  simp only [Resolution.rejected, collect, Ledger.keys]
  induction catalog.entries with
  | nil => rfl
  | cons entry rest ih =>
      rw [List.map_cons, List.filterMap_cons, List.filter_cons, Ledger.contains]
      cases w.rejects.get? entry.1 with
      | none => simpa using ih
      | some reason => simpa using ih

/-- **What is rejected.**  The broken plugins. -/
theorem mem_rejected_iff {r : Resolution} (h : (catalog.resolve c).result = .ok r)
    {key : String} : key ∈ r.rejected ↔ key ∈ catalog.keys ∧ catalog.Broken c key := by
  obtain ⟨w, hsort, rfl⟩ := result_ok h
  rw [rejected_collect, List.mem_filter, Ledger.contains_iff, keys_rebind,
    (sorted_of_sort hsort).mem_rejects_iff, doomed_buildGraph]

/-- A reject is an entry of the catalogue, with the reason that the walk wrote down. -/
theorem mem_collect_rejects_iff {w : Walk} {reject : Reject} :
    reject ∈ (catalog.collect w).rejects ↔
      catalog.get? reject.key = some reject.plugin ∧
        w.rejects.get? reject.key = some reject.reason := by
  simp only [collect, List.mem_filterMap, Prod.exists, Option.map_eq_some_iff,
    Ledger.get?_eq_some_iff]
  constructor
  · rintro ⟨key, p, hp, reason, hreason, rfl⟩
    exact ⟨hp, hreason⟩
  · rintro ⟨hp, hreason⟩
    exact ⟨reject.key, reject.plugin, hp, reject.reason, hreason, rfl⟩

/-- No accepted key stands in front of one that it imports from. -/
theorem pairwise_accepted {r : Resolution} (h : (catalog.resolve c).result = .ok r) :
    (r.accepted.map Prod.fst).Pairwise fun first second => ¬ catalog.Asks first second := by
  obtain ⟨w, hsort, rfl⟩ := result_ok h
  exact ((sorted_of_sort hsort).pairwise.sublist (accept_sublist [] w.finished)).imp
    fun hfeeds hasks => hfeeds (feeds_buildGraph.mpr hasks)

/-- If a resolution succeeds, no chain of imports goes around in a cycle. -/
theorem wellFounded_asks {r : Resolution} (h : (catalog.resolve c).result = .ok r) :
    WellFounded catalog.Asks := by
  obtain ⟨w, hsort, _⟩ := result_ok h
  have heq : catalog.Asks =
      fun importer provider => (catalog.buildGraph c).graph.Feeds provider importer :=
    funext₂ fun _ _ => propext feeds_buildGraph.symm
  rw [heq]
  exact (untouched_buildGraph c catalog).wellFounded_of_sort hsort

/-- What an accepted plugin imports from stands in front of it. -/
theorem lt_of_asks {r : Resolution} (h : (catalog.resolve c).result = .ok r) {m n : Nat}
    {key source : String} {p provider : Plugin} (hn : r.accepted[n]? = some (key, p))
    (hm : r.accepted[m]? = some (source, provider)) (hasks : catalog.Asks key source) : m < n := by
  have hpairwise := List.pairwise_iff_getElem.mp (List.pairwise_map.mp (pairwise_accepted h))
  obtain ⟨hnlt, hnth⟩ := List.getElem?_eq_some_iff.mp hn
  obtain ⟨hmlt, hmth⟩ := List.getElem?_eq_some_iff.mp hm
  -- a plugin does not import from itself, and none stands in front of one that it imports from
  rcases Nat.lt_trichotomy m n with hlt | heq | hgt
  · exact hlt
  · subst heq
    rw [hn] at hm
    cases hm
    exact absurd hasks ((wellFounded_asks h).irrefl.irrefl key)
  · have hnot := hpairwise n m hnlt hmlt hgt
    rw [hnth, hmth] at hnot
    exact absurd hasks hnot

end Catalog

end PluginOrder
