import PluginOrder.Proofs.Resolution.Cycle
import PluginOrder.Proofs.Resolution.Stretch

/-!
# Installing a leaf

A leaf is a plugin that nobody imports from, not even itself.  The catalogue that it is added to is
a stretch of the larger one (`Leaf.stretch`).  The imports of the leaf add edges to nodes of the
stretch, and further nodes behind them, but what these edges lead to is the node of the leaf, which
no edge leads out of.  So the leaf may be accepted and downgraded in the middle of other walks, and
nothing comes of it: the order, the reasons and the cycle of the others stay as they are, and so do
their bindings (`resolve_insert_leaf`).
-/

namespace PluginOrder.Catalog

/-- Under a key that a catalogue does not mention, a plugin is a leaf unless it imports from
itself. -/
structure Leaf (catalog : Catalog) (key : String) (p : Plugin) : Prop where
  not_mem : key ∉ catalog.mentions
  not_self : ∀ i ∈ p.imports, i.sourcePlugin ≠ key

variable {c : Config} {catalog : Catalog} {key : String} {p : Plugin}

namespace Leaf

variable (h : Leaf catalog key p)

include h

theorem entries_insert : (catalog.insert key p).entries = catalog.entries ++ [(key, p)] :=
  Ledger.entries_insert fun hmem => h.not_mem (mem_mentions.mpr (Or.inl hmem))

theorem stretch : Stretch catalog (catalog.insert key p) [] [(key, p)] where
  entries_eq := by rw [List.nil_append, h.entries_insert]
  apart := by
    intro entry hentry
    rw [List.nil_append, List.mem_singleton] at hentry
    rw [hentry]
    exact h.not_mem

/-- Nobody imports from a leaf. -/
theorem not_asks (importer : String) : ¬ Asks (catalog.insert key p) importer key := by
  rintro ⟨q, hq, i, hi, hsource⟩
  rw [Ledger.get?_eq_some_iff, h.stretch.mem_entries_iff] at hq
  rcases hq with hin | hout
  · exact h.not_mem (hsource ▸ source_mem_mentions hin hi)
  · rw [List.nil_append, List.mem_singleton] at hout
    cases hout
    exact h.not_self i hi hsource

theorem isPart : (catalog.buildGraph c).graph.Part (buildGraph c (catalog.insert key p)).graph := by
  refine h.stretch.isPart ?_
  intro entry hentry _ importer
  rw [List.nil_append, List.mem_singleton] at hentry
  rw [hentry]
  exact h.not_asks importer

/-- The nodes of the catalogue come first. -/
theorem keys_graph : ∃ rest, (buildGraph c (catalog.insert key p)).graph.keys =
    (catalog.buildGraph c).graph.keys ++ rest := by
  have hmentions : mentions (catalog.insert key p) =
      catalog.mentions ++ (key :: p.imports.map (·.sourcePlugin)) := by
    rw [mentions, h.entries_insert, List.flatMap_append, List.flatMap_singleton, mentions]
  rw [keys_buildGraph, keys_buildGraph, hmentions, List.eraseDups_append]
  exact ⟨_, rfl⟩

/-! ## Cycles -/

omit h in
/-- Whoever imports from others and is not the leaf does so without it. -/
theorem asks_of_ne {importer source : String} (hasks : Asks (catalog.insert key p) importer source)
    (hne : importer ≠ key) : catalog.Asks importer source := by
  obtain ⟨q, hq, himport⟩ := hasks
  rw [Ledger.get?_insert, if_neg hne.symm] at hq
  exact ⟨q, hq, himport⟩

theorem transGen_of_ne {importer source : String}
    (hway : Relation.TransGen (Asks (catalog.insert key p)) importer source)
    (hne : importer ≠ key) :
    Relation.TransGen catalog.Asks importer source := by
  induction hway using Relation.TransGen.head_induction_on with
  | single hasks => exact .single (asks_of_ne hasks hne)
  | head hasks _ ih =>
      -- the way goes on at a plugin that somebody imports from
      have hnext := ih fun heq => h.not_asks _ (heq ▸ hasks)
      exact .head (asks_of_ne hasks hne) hnext

/-- No cycle passes a leaf. -/
theorem cyclic_of_insert (hcyclic : Cyclic (catalog.insert key p)) : catalog.Cyclic := by
  rw [cyclic_iff] at hcyclic ⊢
  obtain ⟨importer, hcycle⟩ := hcyclic
  obtain ⟨_, _, hasks⟩ := Relation.TransGen.tail'_iff.mp hcycle
  exact ⟨importer, h.transGen_of_ne hcycle fun heq => h.not_asks _ (heq ▸ hasks)⟩

theorem exists_ok {r : Resolution} (hr : (catalog.resolve c).result = .ok r) :
    ∃ r', (resolve c (catalog.insert key p)).result = .ok r' := by
  cases hresult : (resolve c (catalog.insert key p)).result with
  | ok r' => exact ⟨r', rfl⟩
  | error fault =>
      obtain ⟨ids, _, hevidence⟩ := exists_evidence hresult
      exact absurd (h.cyclic_of_insert hevidence.cyclic) (not_cyclic_of_ok hr)

/-! ## Decisions -/

section Decisions

variable {w₁ w : Walk} (hrejects : ∀ id ∈ catalog.mentions, w.rejects.get? id = w₁.rejects.get? id)

include hrejects

theorem filter_installable? (id : String) :
    ((rebind c (catalog.insert key p)).installable? w.rejects id).filter (·.1 ≠ key) =
      if id ∈ catalog.mentions then (catalog.rebind c).installable? w₁.rejects id else none := by
  by_cases hid : id ∈ catalog.mentions
  · rw [if_pos hid, h.stretch.installable?_eq hrejects hid]
    cases hentry : (catalog.rebind c).installable? w₁.rejects id with
    | none => rfl
    | some entry =>
        obtain ⟨rfl, _⟩ := eq_of_installable? hentry
        have hne : entry.1 ≠ key := fun heq => h.not_mem (heq ▸ hid)
        rw [Option.filter_some, if_pos (decide_eq_true hne)]
  · rw [if_neg hid]
    cases hentry : (rebind c (catalog.insert key p)).installable? w.rejects id with
    | none => rfl
    | some entry =>
        -- of what is not mentioned, only the leaf is registered
        obtain ⟨rfl, hmem⟩ := eq_of_installable? hentry
        rw [keys_rebind, Ledger.mem_keys_insert] at hmem
        have heq : entry.1 = key := hmem.resolve_left fun hin => hid (mem_mentions.mpr (Or.inl hin))
        simp [Option.filter_some, heq]

/-- What is accepted besides the leaf. -/
theorem filter_accepted (h₁ : (catalog.buildGraph c).graph.sort = .ok w₁)
    (hsort : (buildGraph c (catalog.insert key p)).graph.sort = .ok w)
    (hfinished : w.finished.filter (· ∈ (catalog.buildGraph c).graph.keys) = w₁.finished) :
    ((rebind c (catalog.insert key p)).collect w).accepted.filter (·.1 ≠ key) =
      ((catalog.rebind c).collect w₁).accepted := by
  calc ((rebind c (catalog.insert key p)).collect w).accepted.filter (·.1 ≠ key)
      = w.finished.filterMap fun id =>
          ((rebind c (catalog.insert key p)).installable? w.rejects id).filter (·.1 ≠ key) := by
        rw [accepted_collect hsort, List.filter_filterMap]
    _ = w.finished.filterMap fun id =>
          if id ∈ catalog.mentions then (catalog.rebind c).installable? w₁.rejects id else none :=
        List.filterMap_congr fun id _ => h.filter_installable? hrejects id
    _ = (w.finished.filter (· ∈ (catalog.buildGraph c).graph.keys)).filterMap
          ((catalog.rebind c).installable? w₁.rejects) := by
        rw [List.filterMap_filter]
        simp only [mem_keys_buildGraph, decide_eq_true_eq]
    _ = ((catalog.rebind c).collect w₁).accepted := by
        rw [hfinished, accepted_collect h₁]

/-- What is rejected besides the leaf. -/
theorem filter_rejects :
    ((rebind c (catalog.insert key p)).collect w).rejects.filter (·.key ≠ key) =
      ((catalog.rebind c).collect w₁).rejects := by
  have hentries : (rebind c (catalog.insert key p)).entries =
      (catalog.rebind c).entries ++ [rebindEntry c (catalog.insert key p) (key, p)] := by
    rw [← h.stretch.map_rebindEntry, ← List.map_singleton, ← List.map_append, ← h.entries_insert]
    rfl
  -- no reject of the smaller catalogue is the leaf, and the leaf adds no other
  have hothers : ((catalog.rebind c).collect w₁).rejects.filter (·.key ≠ key) =
      ((catalog.rebind c).collect w₁).rejects := by
    rw [List.filter_eq_self]
    intro reject hreject
    have hkey := Ledger.mem_keys_iff.mpr ⟨_, (mem_collect_rejects_iff.mp hreject).1⟩
    rw [keys_rebind] at hkey
    have hne : reject.key ≠ key := fun heq => h.not_mem (mem_mentions.mpr (Or.inl (heq ▸ hkey)))
    exact decide_eq_true hne
  have hleaf : ([rebindEntry c (catalog.insert key p) (key, p)].filterMap w.rejectOf).filter
      (·.key ≠ key) = [] := by
    rw [List.filter_eq_nil_iff]
    intro reject hreject
    obtain ⟨entry, hentry, hreject⟩ := List.mem_filterMap.mp hreject
    obtain ⟨reason, _, rfl⟩ := Option.map_eq_some_iff.mp hreject
    rw [List.mem_singleton.mp hentry]
    simp [rebindEntry]
  rw [rejects_collect, hentries, List.filterMap_append, Stretch.filterMap_rejectOf hrejects,
    List.filter_append, hothers, hleaf, List.append_nil]

end Decisions

end Leaf

/-- **Installing a leaf disturbs nobody.**  A cycle is reported as before.  Otherwise the plugins
other than the leaf are accepted and rejected as before, in the same order and for the same reasons.
In either case their imports are bound as before. -/
theorem resolve_insert_leaf (h : Leaf catalog key p) :
    (∀ fault, (catalog.resolve c).result = .error fault →
      (resolve c (catalog.insert key p)).result = .error fault) ∧
    (∀ r, (catalog.resolve c).result = .ok r →
      ∃ r', (resolve c (catalog.insert key p)).result = .ok r' ∧
        r'.accepted.filter (·.1 ≠ key) = r.accepted ∧
        r'.rejects.filter (·.key ≠ key) = r.rejects) ∧
    ∀ other ∈ catalog.keys, (resolve c (catalog.insert key p)).catalog.get? other =
      (catalog.resolve c).catalog.get? other := by
  obtain ⟨rest, hkeys⟩ := h.keys_graph (c := c)
  have hpart := h.isPart (c := c)
  have hg := untouched_buildGraph c (catalog.insert key p)
  refine ⟨fun fault hfault => ?_, fun r hr => ?_, fun other hother => ?_⟩
  · obtain ⟨halt, h₁, rfl⟩ := result_error hfault
    obtain ⟨halt', hsort, hsame⟩ := hpart.sort_error hg hkeys h₁
    rw [result_resolve, hsort, ← hsame]
  · obtain ⟨r', hr'⟩ := h.exists_ok hr
    obtain ⟨w₁, h₁, rfl⟩ := result_ok hr
    obtain ⟨w, hsort, rfl⟩ := result_ok hr'
    obtain ⟨hfinished, hreasons⟩ := hpart.alike_of_sort hg hkeys h.stretch.closed_outside h₁ hsort
    have hrejects : ∀ id ∈ catalog.mentions, w.rejects.get? id = w₁.rejects.get? id :=
      fun id hid => hreasons id (mem_keys_buildGraph.mpr hid)
    exact ⟨_, hr', h.filter_accepted hrejects h₁ hsort hfinished, h.filter_rejects hrejects⟩
  · rw [catalog_resolve, catalog_resolve]
    exact h.stretch.get?_rebind (mem_mentions.mpr (Or.inl hother))

/-- A catalogue with a plugin that everybody imports from, and one that asks for what nobody has
registered. -/
def harbour : Catalog where
  entries := [
    ("quay", ⟨"quay", none, [⟨"s", "1.0.0", .service, "service"⟩], []⟩),
    ("crane", ⟨"crane", none, [], [⟨"quay", "s", "s", .text "*", none⟩]⟩),
    ("ferry", ⟨"ferry", none, [], [⟨"fog", "s", "s", .text "*", none⟩]⟩)]
  nodup_keys := by decide

/-- A leaf that can be accepted at first, and is downgraded when the walk comes to `fog`. -/
def lamp : Plugin :=
  ⟨"lamp", none, [], [⟨"quay", "s", "s", .text "*", none⟩, ⟨"fog", "s", "s", .text "*", none⟩,
    ⟨"grid", "s", "s", .text "*", none⟩]⟩

theorem resolve_insert_leaf_harbour :
    Leaf harbour "lamp" lamp ∧
      ∃ r r', (harbour.resolve .default).result = .ok r ∧
        (resolve .default (harbour.insert "lamp" lamp)).result = .ok r' ∧
        r'.accepted.filter (·.1 ≠ "lamp") = r.accepted ∧
        r'.rejects.filter (·.key ≠ "lamp") = r.rejects ∧
        r'.order = ["quay", "crane"] ∧ r'.rejected = ["ferry", "lamp"] := by
  have hleaf : Leaf harbour "lamp" lamp := ⟨by decide, by decide⟩
  obtain ⟨r', hr', haccepted, hrejects⟩ := (resolve_insert_leaf (c := .default) hleaf).2.1 _ rfl
  refine ⟨hleaf, _, r', rfl, hr', haccepted, hrejects, ?_⟩
  cases hr'
  exact ⟨rfl, rfl⟩

end PluginOrder.Catalog
