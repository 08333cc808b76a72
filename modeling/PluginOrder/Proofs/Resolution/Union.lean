import PluginOrder.Proofs.Resolution.Stretch

/-!
# Two catalogues without common identifiers

A catalogue may be one catalogue followed by another one that mentions none of its identifiers.
Then each of the two is a stretch of it, no edge leads from one to the other, and the graph is split
into the graphs of the two (`Union.split`).  So resolving the whole is resolving the one and then
the other (`resolve_union`): the rejects follow the order of the catalogue, and the order of the
start is the other way round, since a walk puts what it leaves later in front.
-/

namespace PluginOrder

/-- What two resolutions come to, one after the other. -/
def Resolution.followedBy (first second : Resolution) : Resolution where
  accepted := second.accepted ++ first.accepted
  rejects := first.rejects ++ second.rejects

namespace Catalog

/-- A catalogue is one followed by another, and no identifier occurs in both, be it as a key or as
that of a plugin that is asked for. -/
structure Union (first second catalog : Catalog) : Prop where
  entries_eq : catalog.entries = first.entries ++ second.entries
  disjoint : ∀ id ∈ first.mentions, id ∉ second.mentions

variable {c : Config} {first second catalog : Catalog}

namespace Union

variable (h : Union first second catalog)

include h

theorem fst : Stretch first catalog [] second.entries where
  entries_eq := by rw [List.nil_append, h.entries_eq]
  apart := fun _ hentry hmem => h.disjoint _ hmem (mem_mentions_of_mem hentry)

theorem snd : Stretch second catalog first.entries [] where
  entries_eq := by rw [List.append_nil, h.entries_eq]
  apart := by
    rw [List.append_nil]
    exact fun _ hentry hmem => h.disjoint _ (mem_mentions_of_mem hentry) hmem

theorem keys_graph : (catalog.buildGraph c).graph.keys =
    (first.buildGraph c).graph.keys ++ (second.buildGraph c).graph.keys := by
  have hmentions : catalog.mentions = first.mentions ++ second.mentions := by
    rw [mentions, h.entries_eq, List.flatMap_append, mentions, mentions]
  have hall : second.mentions.removeAll first.mentions = second.mentions := by
    rw [List.removeAll, List.filter_eq_self]
    intro id hid
    simpa using fun hfirst => h.disjoint id hfirst hid
  rw [keys_buildGraph, keys_buildGraph, keys_buildGraph, hmentions, List.eraseDups_append, hall]

theorem isPart_fst : (first.buildGraph c).graph.Part (catalog.buildGraph c).graph := by
  refine h.fst.isPart ?_
  rintro entry hentry ⟨i, hi, hsource⟩
  exact absurd (source_mem_mentions hentry hi) (h.disjoint _ hsource)

theorem isPart_snd : (second.buildGraph c).graph.Part (catalog.buildGraph c).graph := by
  refine h.snd.isPart ?_
  rintro entry hentry ⟨i, hi, hsource⟩
  rw [List.append_nil] at hentry
  exact absurd hsource (h.disjoint _ (source_mem_mentions hentry hi))

/-- **The graph is split into those of the two catalogues.** -/
theorem split :
    Graph.Split (first.buildGraph c).graph (second.buildGraph c).graph
      (catalog.buildGraph c).graph := by
  have hkeys := h.keys_graph (c := c)
  have hg := untouched_buildGraph c catalog
  have hout := Graph.not_mem_of_mem_rest hkeys
  have hmem : ∀ {provider importer : String}, (catalog.buildGraph c).graph.Feeds provider importer →
      importer ∈ (first.buildGraph c).graph.keys ∨ importer ∈ (second.buildGraph c).graph.keys := by
    rintro provider _ ⟨node, hnode, edge, hedge, rfl⟩
    rw [← List.mem_append, ← hkeys]
    exact hg.importer_mem hnode edge hedge
  refine ⟨hkeys, h.isPart_fst, h.isPart_snd, ?_, ?_⟩
  · intro provider importer hprovider hfeeds
    have hnot := h.snd.closed_outside (fun hsnd => hout provider hsnd hprovider) hfeeds
    exact (hmem hfeeds).resolve_right hnot
  · intro provider importer hprovider hfeeds
    have hnot := h.fst.closed_outside (hout provider hprovider) hfeeds
    exact (hmem hfeeds).resolve_left hnot

/-- What is left of a walk over the whole is what is left of two walks. -/
theorem collect_eq {w₁ w₂ w : Walk} (hsort : (catalog.buildGraph c).graph.sort = .ok w)
    (h₁ : (first.buildGraph c).graph.sort = .ok w₁) (h₂ : (second.buildGraph c).graph.sort = .ok w₂)
    (hfinished : w.finished = w₂.finished ++ w₁.finished)
    (hrejects₁ : ∀ key ∈ first.mentions, w.rejects.get? key = w₁.rejects.get? key)
    (hrejects₂ : ∀ key ∈ second.mentions, w.rejects.get? key = w₂.rejects.get? key) :
    (catalog.rebind c).collect w =
      ((first.rebind c).collect w₁).followedBy ((second.rebind c).collect w₂) := by
  have hentries : (catalog.rebind c).entries =
      (first.rebind c).entries ++ (second.rebind c).entries := by
    rw [← h.fst.map_rebindEntry, ← h.snd.map_rebindEntry, ← List.map_append, ← h.entries_eq]
    rfl
  have haccepted₁ : w₁.finished.filterMap ((catalog.rebind c).installable? w.rejects) =
      ((first.rebind c).collect w₁).accepted := by
    rw [accepted_collect h₁]
    refine List.filterMap_congr fun id hid => h.fst.installable?_eq hrejects₁ ?_
    exact mem_keys_buildGraph.mp ((untouched_buildGraph c first).mem_keys_of_finished h₁ hid)
  have haccepted₂ : w₂.finished.filterMap ((catalog.rebind c).installable? w.rejects) =
      ((second.rebind c).collect w₂).accepted := by
    rw [accepted_collect h₂]
    refine List.filterMap_congr fun id hid => h.snd.installable?_eq hrejects₂ ?_
    exact mem_keys_buildGraph.mp ((untouched_buildGraph c second).mem_keys_of_finished h₂ hid)
  -- the later catalogue is finished in front of the earlier one
  have haccepted := calc
    ((catalog.rebind c).collect w).accepted
      = (w₂.finished ++ w₁.finished).filterMap ((catalog.rebind c).installable? w.rejects) := by
        rw [accepted_collect hsort, hfinished]
    _ = w₂.finished.filterMap ((catalog.rebind c).installable? w.rejects) ++
          w₁.finished.filterMap ((catalog.rebind c).installable? w.rejects) :=
        List.filterMap_append
    _ = ((second.rebind c).collect w₂).accepted ++ ((first.rebind c).collect w₁).accepted := by
        rw [haccepted₁, haccepted₂]
  -- the rejects stand in the order of the registry
  have hrejected := calc
    ((catalog.rebind c).collect w).rejects
      = ((first.rebind c).entries ++ (second.rebind c).entries).filterMap w.rejectOf := by
        rw [rejects_collect, hentries]
    _ = (first.rebind c).entries.filterMap w.rejectOf ++
          (second.rebind c).entries.filterMap w.rejectOf :=
        List.filterMap_append
    _ = ((first.rebind c).collect w₁).rejects ++ ((second.rebind c).collect w₂).rejects := by
        rw [Stretch.filterMap_rejectOf hrejects₁, Stretch.filterMap_rejectOf hrejects₂]
  exact congrArg₂ Resolution.mk haccepted hrejected

end Union

/-- **Resolving two catalogues without common identifiers is resolving one after the other.**  A
cycle in the first one is reported, then a cycle in the second one.  Without cycles the plugins of
the second one are started before those of the first one, and the rejects of the first one come
before those of the second one. -/
theorem resolve_union (h : Union first second catalog) :
    (catalog.resolve c).result =
      match (first.resolve c).result, (second.resolve c).result with
      | .error fault, _ => .error fault
      | .ok _, .error fault => .error fault
      | .ok r₁, .ok r₂ => .ok (r₁.followedBy r₂) := by
  have hg := untouched_buildGraph c catalog
  have hsplit := h.split (c := c)
  simp only [result_resolve]
  cases h₁ : (first.buildGraph c).graph.sort with
  | error halt =>
      obtain ⟨halt', hsort, hfault⟩ := hsplit.fst.sort_error hg hsplit.keys_eq h₁
      rw [hsort]
      exact congrArg Except.error hfault
  | ok w₁ =>
      cases h₂ : (second.buildGraph c).graph.sort with
      | error halt =>
          obtain ⟨halt', hsort, hfault⟩ := hsplit.sort_error_snd hg h₁ h₂
          rw [hsort]
          exact congrArg Except.error hfault
      | ok w₂ =>
          obtain ⟨w, hsort, hfinished, hrejects₁, hrejects₂⟩ := hsplit.sort_ok hg h₁ h₂
          rw [hsort]
          exact congrArg Except.ok (h.collect_eq hsort h₁ h₂ hfinished
            (fun key hkey => hrejects₁ key (mem_keys_buildGraph.mpr hkey))
            fun key hkey => hrejects₂ key (mem_keys_buildGraph.mpr hkey))

/-- A catalogue in which `index` can be accepted at first, and is downgraded when the walk comes to
`disk`, which nobody has registered. -/
def storage : Catalog where
  entries := [
    ("index", ⟨"index", none, [],
      [⟨"store", "s", "s", .text "*", none⟩, ⟨"disk", "s", "s", .text "*", none⟩]⟩),
    ("store", ⟨"store", none, [⟨"s", "1.0.0", .service, "service"⟩], []⟩)]
  nodup_keys := by decide

/-- A catalogue with one import that is served and one that is not. -/
def display : Catalog where
  entries := [
    ("theme", ⟨"theme", none, [], [⟨"font", "s", "s", .text "^2.0.0", none⟩]⟩),
    ("font", ⟨"font", none, [⟨"s", "1.0.0", .service, "service"⟩], []⟩),
    ("editor", ⟨"editor", none, [], [⟨"font", "s", "s", .text "*", none⟩]⟩)]
  nodup_keys := by decide

/-- The two catalogues, one after the other. -/
def workshop : Catalog where
  entries := storage.entries ++ display.entries
  nodup_keys := by decide

theorem resolve_union_workshop :
    Union storage display workshop ∧
      ∃ r₁ r₂, (storage.resolve .default).result = .ok r₁ ∧
        (display.resolve .default).result = .ok r₂ ∧
        (workshop.resolve .default).result = .ok (r₁.followedBy r₂) ∧
        (r₁.followedBy r₂).order = ["font", "editor", "store"] ∧
        (r₁.followedBy r₂).rejected = ["index", "theme"] :=
  have hunion : Union storage display workshop := ⟨rfl, by decide⟩
  ⟨hunion, _, _, rfl, rfl, resolve_union hunion, rfl, rfl⟩

end Catalog

end PluginOrder
