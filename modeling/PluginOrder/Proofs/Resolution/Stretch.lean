import PluginOrder.Proofs.Resolution.Outcome
import PluginOrder.Proofs.Walk.Composition

/-!
# Stretches of a catalogue

A stretch of a catalogue is a run of its entries that could be a catalogue of its own.  If it
mentions none of the keys of the other entries, it is resolved within the catalogue as it is on its
own.  Its imports look up the same plugins (`Stretch.get?_eq`), so they are bound alike
(`Stretch.get?_rebind`) and have the same edges.  The other edges that there may be at its nodes
lead to plugins outside.  Where nobody imports from those, the graph of the stretch is a part of the
graph of the catalogue (`Stretch.isPart`).
-/

namespace PluginOrder.Catalog

/-- The entries of a catalogue are those of a stretch with others around, of whose keys the stretch
mentions none. -/
structure Stretch (part catalog : Catalog) (before after : List (String × Plugin)) : Prop where
  entries_eq : catalog.entries = before ++ part.entries ++ after
  apart : ∀ entry ∈ before ++ after, entry.1 ∉ part.mentions

/-- An entry of a catalogue with its imports bound. -/
def rebindEntry (c : Config) (catalog : Catalog) (entry : String × Plugin) : String × Plugin :=
  (entry.1, catalog.rebindPlugin c entry.2)

variable {c : Config} {part catalog : Catalog} {before after : List (String × Plugin)}

/-! ## Mentioned identifiers -/

theorem mem_mentions_of_mem {entry : String × Plugin} (hentry : entry ∈ catalog.entries) :
    entry.1 ∈ catalog.mentions :=
  List.mem_flatMap.mpr ⟨entry, hentry, List.mem_cons_self⟩

theorem source_mem_mentions {entry : String × Plugin} (hentry : entry ∈ catalog.entries)
    {i : Import}
    (hi : i ∈ entry.2.imports) : i.sourcePlugin ∈ catalog.mentions :=
  List.mem_flatMap.mpr ⟨entry, hentry, List.mem_cons_of_mem _ (List.mem_map_of_mem hi)⟩

/-- Whoever feeds whom in the graph of a catalogue, an entry says so. -/
theorem exists_entry_of_feeds {provider importer : String}
    (h : (catalog.buildGraph c).graph.Feeds provider importer) :
    ∃ entry ∈ catalog.entries, entry.1 = importer ∧ ∃ i ∈ entry.2.imports,
      i.sourcePlugin = provider := by
  obtain ⟨p, hp, i, hi, hsource⟩ := feeds_buildGraph.mp h
  exact ⟨(importer, p), Ledger.get?_eq_some_iff.mp hp, rfl, i, hi, hsource⟩

/-! ## What is the same in a stretch -/

namespace Stretch

variable (h : Stretch part catalog before after)

include h

theorem mem_entries_iff {entry : String × Plugin} :
    entry ∈ catalog.entries ↔ entry ∈ part.entries ∨ entry ∈ before ++ after := by
  rw [h.entries_eq]
  simp only [List.mem_append]
  tauto

/-- A plugin that the stretch mentions is registered in it or not at all. -/
theorem get?_eq {id : String} (hid : id ∈ part.mentions) : catalog.get? id = part.get? id := by
  refine Option.ext fun p => ?_
  rw [Ledger.get?_eq_some_iff, Ledger.get?_eq_some_iff, h.mem_entries_iff]
  exact or_iff_left fun hother => h.apart _ hother hid

theorem outcome_eq {entry : String × Plugin} (hentry : entry ∈ part.entries) {i : Import}
    (hi : i ∈ entry.2.imports) : catalog.outcome c i = part.outcome c i := by
  rw [outcome, outcome, h.get?_eq (source_mem_mentions hentry hi)]

theorem edgeOf_eq {entry : String × Plugin} (hentry : entry ∈ part.entries) {i : Import}
    (hi : i ∈ entry.2.imports) : catalog.edgeOf c entry.1 i = part.edgeOf c entry.1 i := by
  rw [edgeOf, edgeOf, h.outcome_eq hentry hi]

theorem rebindEntry_eq {entry : String × Plugin} (hentry : entry ∈ part.entries) :
    catalog.rebindEntry c entry = part.rebindEntry c entry := by
  have himports : entry.2.imports.map (catalog.rebindImport c) =
      entry.2.imports.map (part.rebindImport c) := by
    refine List.map_congr_left fun i hi => ?_
    rw [rebindImport, rebindImport, h.outcome_eq hentry hi]
  simp only [rebindEntry, rebindPlugin, himports]

theorem map_rebindEntry :
    part.entries.map (catalog.rebindEntry c) = (part.rebind c).entries :=
  List.map_congr_left fun _ hentry => h.rebindEntry_eq hentry

theorem get?_rebind {id : String} (hid : id ∈ part.mentions) :
    (catalog.rebind c).get? id = (part.rebind c).get? id := by
  rw [Catalog.get?_rebind, Catalog.get?_rebind, h.get?_eq hid]
  cases hp : part.get? id with
  | none => rfl
  | some p =>
      have hentry := h.rebindEntry_eq (c := c) (Ledger.get?_eq_some_iff.mp hp)
      exact congrArg some (Prod.mk.inj hentry).2

/-! ## The graph of a stretch -/

/-- The edges of a catalogue that lead to what the stretch mentions are the edges of the stretch. -/
theorem filter_edges :
    (catalog.edges c).filter (fun edge => edge.importer ∈ part.mentions) = part.edges c := by
  have hother : ∀ entries : List (String × Plugin), (∀ entry ∈ entries, entry.1 ∉ part.mentions) →
      (entries.flatMap fun entry => entry.2.imports.map (catalog.edgeOf c entry.1)).filter
        (fun edge => edge.importer ∈ part.mentions) = [] := by
    intro entries hentries
    rw [List.filter_eq_nil_iff]
    intro edge hedge
    obtain ⟨entry, hentry, hmem⟩ := List.mem_flatMap.mp hedge
    obtain ⟨i, _, rfl⟩ := List.mem_map.mp hmem
    rw [decide_eq_true_eq]
    exact hentries entry hentry
  have hpart : (part.entries.flatMap fun entry =>
      entry.2.imports.map (catalog.edgeOf c entry.1)) = part.edges c := by
    refine List.flatMap_congr fun entry hentry => ?_
    exact List.map_congr_left fun i hi => h.edgeOf_eq hentry hi
  have hall : (part.edges c).filter (fun edge => edge.importer ∈ part.mentions) = part.edges c := by
    rw [List.filter_eq_self]
    intro edge hedge
    obtain ⟨entry, hentry, hmem⟩ := List.mem_flatMap.mp hedge
    obtain ⟨i, _, rfl⟩ := List.mem_map.mp hmem
    rw [decide_eq_true_eq]
    exact mem_mentions_of_mem hentry
  have hbefore := hother before fun entry hentry => h.apart entry (List.mem_append_left _ hentry)
  have hafter := hother after fun entry hentry => h.apart entry (List.mem_append_right _ hentry)
  rw [edges, h.entries_eq, List.flatMap_append, List.flatMap_append, List.filter_append,
    List.filter_append, hbefore, hafter, hpart, hall, List.nil_append, List.append_nil]

/-- No edge leads to the nodes of a stretch from outside. -/
theorem closed_outside :
    (catalog.buildGraph c).graph.Closed (· ∉ (part.buildGraph c).graph.keys) := by
  intro provider importer hprovider hfeeds
  rw [mem_keys_buildGraph] at hprovider ⊢
  obtain ⟨entry, hentry, rfl, i, hi, rfl⟩ := exists_entry_of_feeds hfeeds
  rcases h.mem_entries_iff.mp hentry with hin | hout
  · exact absurd (source_mem_mentions hin hi) hprovider
  · exact h.apart entry hout

/-- **The graph of a stretch is a part of the graph of the catalogue**, if nobody imports from the
plugins outside that import from a plugin of the stretch. -/
theorem isPart (hleaf : ∀ entry ∈ before ++ after,
      (∃ i ∈ entry.2.imports, i.sourcePlugin ∈ part.mentions) → ∀ key, ¬ catalog.Asks key entry.1) :
    (part.buildGraph c).graph.Part (catalog.buildGraph c).graph where
  get?_eq := by
    intro key hkey
    have hmem : key ∈ part.mentions := mem_keys_buildGraph.mp hkey
    have hmem' : key ∈ catalog.mentions := by
      obtain ⟨entry, hentry, hid⟩ := List.mem_flatMap.mp hmem
      exact List.mem_flatMap.mpr ⟨entry, h.mem_entries_iff.mpr (Or.inl hentry), hid⟩
    rw [get?_buildGraph, get?_buildGraph, if_pos hmem, if_pos hmem', Option.map_some, Node.within]
    simp only [mem_keys_buildGraph, List.filter_filter, ← h.filter_edges, Bool.and_comm]
  leaf := by
    rintro key node ⟨hout, provider, hprovider, hfeeds⟩ hnode
    rw [mem_keys_buildGraph] at hout hprovider
    obtain ⟨entry, hentry, rfl, i, hi, rfl⟩ := exists_entry_of_feeds hfeeds
    -- an edge leads out of the stretch only if somebody outside imports from it
    have hother : entry ∈ before ++ after :=
      (h.mem_entries_iff.mp hentry).resolve_left fun hin => hout (mem_mentions_of_mem hin)
    refine List.eq_nil_iff_forall_not_mem.mpr fun edge hedge => ?_
    exact hleaf entry hother ⟨i, hi, hprovider⟩ edge.importer
      (feeds_buildGraph.mp ⟨node, hnode, edge, hedge, rfl⟩)

/-! ## What a resolution decides on a stretch

Where two walks have written down the same reasons for what the stretch mentions, the same is
accepted of it and the same is rejected. -/

variable {w₁ w : Walk} (hrejects : ∀ key ∈ part.mentions, w.rejects.get? key = w₁.rejects.get? key)

include hrejects

theorem installable?_eq {id : String} (hid : id ∈ part.mentions) :
    (catalog.rebind c).installable? w.rejects id = (part.rebind c).installable? w₁.rejects id := by
  rw [installable?, installable?, Ledger.contains, Ledger.contains, hrejects id hid,
    h.get?_rebind hid]

omit h in
theorem filterMap_rejectOf : (part.rebind c).entries.filterMap w.rejectOf =
    ((part.rebind c).collect w₁).rejects := by
  refine List.filterMap_congr fun entry hentry => ?_
  obtain ⟨old, hold, rfl⟩ := List.mem_map.mp hentry
  simp only [Walk.rejectOf, hrejects _ (mem_mentions_of_mem hold)]

end Stretch

end PluginOrder.Catalog
