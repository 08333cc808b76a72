import PluginOrder.Proofs.Resolution.Telling

/-!
# Cycles of imports

A resolution reports a cycle if and only if the imports among the registered plugins go around in
one, and if the ranges have texts, it fails for no other reason (`fails_iff_cyclic`).  Whether
those imports could be served does not matter, and neither does the order of the catalogue.

A resolution that succeeds leaves the imports well-founded, by `wellFounded_asks`, and so without
cycles.  A resolution that fails reports identifiers that run once around a cycle
(`exists_evidence`); they are evidence that anyone can check against the catalogue.
-/

namespace PluginOrder.Catalog

/-- A registered plugin imports from a registered plugin. -/
def ImportsFrom (catalog : Catalog) (key source : String) : Prop :=
  catalog.Asks key source ∧ source ∈ catalog.keys

/-- Some registered plugin imports from itself, directly or through others. -/
def Cyclic (catalog : Catalog) : Prop := ∃ key, Relation.TransGen catalog.ImportsFrom key key

/-- The evidence of a cycle: registered keys, each once, except that the first one closes the list,
such that each is imported from by the next one. -/
structure Evidence (catalog : Catalog) (ids : List String) : Prop where
  two_le_length : 2 ≤ ids.length
  head?_eq : ids.head? = ids.getLast?
  nodup : ids.dropLast.Nodup
  registered : ∀ key ∈ ids.dropLast, key ∈ catalog.keys
  chain : ids.IsChain fun source key =>
    ∃ p, catalog.get? key = some p ∧ ∃ i ∈ p.imports, i.sourcePlugin = source

variable {c : Config} {catalog : Catalog}

/-! ## Cycles and registered keys -/

theorem Asks.mem_keys {key source : String} (h : catalog.Asks key source) : key ∈ catalog.keys := by
  obtain ⟨p, hp, _⟩ := h
  exact Ledger.mem_keys_iff.mpr ⟨p, hp⟩

/-- A way along imports to a registered plugin only passes registered plugins. -/
theorem transGen_importsFrom {key source : String} (h : Relation.TransGen catalog.Asks key source)
    (hsource : source ∈ catalog.keys) : Relation.TransGen catalog.ImportsFrom key source := by
  -- from the end on: whoever takes a step has imports, and so is registered
  induction h with
  | single hasks => exact .single ⟨hasks, hsource⟩
  | tail _ hasks ih => exact (ih hasks.mem_keys).tail ⟨hasks, hsource⟩

/-- The plugins of a cycle are registered, since they have imports. -/
theorem cyclic_iff : catalog.Cyclic ↔ ∃ key, Relation.TransGen catalog.Asks key key := by
  constructor
  · rintro ⟨key, h⟩
    exact ⟨key, Relation.TransGen.mono (fun _ _ hstep => hstep.1) _ _ h⟩
  · rintro ⟨key, h⟩
    obtain ⟨_, hasks, _⟩ := Relation.TransGen.head'_iff.mp h
    exact ⟨key, transGen_importsFrom h hasks.mem_keys⟩

/-- Cycles come from imports: a catalogue with the imports of another one has its cycles. -/
theorem Cyclic.mono {catalog' : Catalog} (h : catalog.Cyclic)
    (hasks : ∀ {key source}, catalog.Asks key source → catalog'.Asks key source) :
    catalog'.Cyclic := by
  rw [cyclic_iff] at h ⊢
  obtain ⟨key, hcycle⟩ := h
  exact ⟨key, Relation.TransGen.mono (fun _ _ => hasks) _ _ hcycle⟩

/-- All identifiers of a chain but the first one have imports. -/
theorem mem_keys_of_isChain {source : String} {ids : List String}
    (h : (source :: ids).IsChain fun source key => catalog.Asks key source) :
    ∀ key ∈ ids, key ∈ catalog.keys := by
  induction ids generalizing source with
  | nil => simp
  | cons key rest ih =>
      rw [List.isChain_cons_cons] at h
      intro other hother
      rcases List.mem_cons.mp hother with rfl | hrest
      · exact h.1.mem_keys
      · exact ih h.2 other hrest

/-! ## From a walk to its evidence -/

theorem evidence_of_circle {ids : List String}
    (h : (catalog.buildGraph c).graph.Circle ids) : catalog.Evidence ids := by
  have hchain : ids.IsChain fun source key => catalog.Asks key source :=
    h.chain.imp fun _ _ => feeds_buildGraph.mp
  refine ⟨h.two_le_length, h.head?_eq, h.nodup, fun key hkey => ?_, hchain⟩
  match ids, h.two_le_length, h.head?_eq, hkey with
  | first :: second :: rest, _, hclosed, hkey =>
    have hmem : key ∈ first :: second :: rest := List.dropLast_subset _ hkey
    rcases List.mem_cons.mp hmem with rfl | hrest
    · -- the first identifier is also the last one
      have hlast : (second :: rest).getLast? = some key := by
        rw [← List.getLast?_cons_cons, ← hclosed, List.head?_cons]
      exact mem_keys_of_isChain hchain key (List.mem_of_getLast? hlast)
    · exact mem_keys_of_isChain hchain key hrest

theorem Evidence.cyclic {ids : List String} (h : catalog.Evidence ids) : catalog.Cyclic := by
  rw [cyclic_iff]
  match ids, h.two_le_length, h.head?_eq, h.chain with
  | first :: second :: rest, _, hclosed, hchain =>
    rw [List.isChain_cons_cons] at hchain
    have hlast : (second :: rest).getLast (List.cons_ne_nil _ _) = first := by
      rw [List.head?_cons, List.getLast?_cons_cons, List.getLast?_eq_some_getLast] at hclosed
      exact (Option.some_inj.mp hclosed).symm
    have hway : Relation.ReflTransGen (fun source key => catalog.Asks key source) second first :=
      List.relationReflTransGen_of_exists_isChain_cons rest hchain.2 hlast
    exact ⟨first, Relation.transGen_swap.mp (.head' hchain.1 hway)⟩

/-- A resolution only fails with evidence of a cycle. -/
theorem exists_evidence {fault : WalkFault} (h : (catalog.resolve c).result = .error fault) :
    ∃ ids, fault = .cycle ids ∧ catalog.Evidence ids := by
  obtain ⟨halt, hsort, rfl⟩ := result_error h
  obtain ⟨ids, hfault, hcircle⟩ := (untouched_buildGraph c catalog).circle_of_sort hsort
  exact ⟨ids, hfault, evidence_of_circle hcircle⟩

theorem not_cyclic_of_ok {r : Resolution} (h : (catalog.resolve c).result = .ok r) :
    ¬ catalog.Cyclic := by
  rw [cyclic_iff]
  rintro ⟨key, hcycle⟩
  exact (wellFounded_asks h).transGen.irrefl.irrefl key hcycle

/-- Without a cycle a resolution succeeds. -/
theorem exists_ok_of_not_cyclic (c : Config) (h : ¬ catalog.Cyclic) :
    ∃ r, (catalog.resolve c).result = .ok r := by
  cases hresult : (catalog.resolve c).result with
  | ok r => exact ⟨r, rfl⟩
  | error fault =>
      obtain ⟨ids, _, hevidence⟩ := exists_evidence hresult
      exact absurd hevidence.cyclic h

/-- A catalogue with only imports that another one has is resolved if that one is. -/
theorem exists_ok_of_asks {c' : Config} {catalog' : Catalog} {r : Resolution}
    (h : (catalog.resolve c).result = .ok r)
    (hasks : ∀ {key source}, catalog'.Asks key source → catalog.Asks key source) :
    ∃ r', (catalog'.resolve c').result = .ok r' :=
  exists_ok_of_not_cyclic c' fun hcyclic => not_cyclic_of_ok h (hcyclic.mono hasks)

/-- With a cycle a resolution reports one. -/
theorem exists_cycle_of_cyclic (c : Config) (h : catalog.Cyclic) :
    ∃ ids, (catalog.resolve c).result = .error (.cycle ids) := by
  cases hresult : (catalog.resolve c).result with
  | ok r => exact absurd h (not_cyclic_of_ok hresult)
  | error fault =>
      obtain ⟨ids, rfl, _⟩ := exists_evidence hresult
      exact ⟨ids, rfl⟩

/-! ## What a resolution says about cycles -/

/-- **A resolution reports a cycle if and only if there is one.**  Without a cycle everything is
decided, and the caller is given what is decided, provided that every range has a text. -/
theorem fails_iff_cyclic (c : Config) (catalog : Catalog) :
    ((∃ ids, (catalog.resolve c).result = .error (.cycle ids)) ↔ catalog.Cyclic) ∧
      ((∃ r, (catalog.resolve c).result = .ok r) ↔ ¬ catalog.Cyclic) ∧
      ((∃ ids, (catalog.resolve c).answer = .error (.walk (.cycle ids))) ↔ catalog.Cyclic) ∧
      (catalog.Legible → ((∃ r, (catalog.resolve c).answer = .ok r) ↔ ¬ catalog.Cyclic)) := by
  have hcycle : (∃ ids, (catalog.resolve c).result = .error (.cycle ids)) ↔ catalog.Cyclic := by
    constructor
    · rintro ⟨ids, hresult⟩
      obtain ⟨_, _, hevidence⟩ := exists_evidence hresult
      exact hevidence.cyclic
    · exact exists_cycle_of_cyclic c
  have hok : (∃ r, (catalog.resolve c).result = .ok r) ↔ ¬ catalog.Cyclic :=
    ⟨fun ⟨_, hresult⟩ => not_cyclic_of_ok hresult, exists_ok_of_not_cyclic c⟩
  refine ⟨hcycle, hok, ?_, fun hlegible => ?_⟩
  · simpa only [Run.answer_eq_walk_iff] using hcycle
  · rw [← hok, answer_of_legible hlegible]
    cases (catalog.resolve c).result <;> simp [Except.mapError]

/-- Two plugins, one of which imports from the other one. -/
def paired : Catalog where
  entries := [
    ("base", ⟨"base", none, [⟨"s", "1.0.0", .service, "service"⟩], []⟩),
    ("a", ⟨"a", none, [], [⟨"base", "s", "s", .text "*", none⟩]⟩)]
  nodup_keys := by decide

theorem fails_iff_cyclic_paired :
    paired.Legible ∧ ¬ paired.Cyclic ∧ ∃ r, (paired.resolve .default).answer = .ok r := by
  have hlegible : paired.Legible := by decide
  obtain ⟨_, hok, _, hanswer⟩ := fails_iff_cyclic .default paired
  have hcyclic : ¬ paired.Cyclic := hok.mp ⟨_, rfl⟩
  exact ⟨hlegible, hcyclic, (hanswer hlegible).mpr hcyclic⟩

/-- **The evidence of a cycle is genuine.**  The reported identifiers run once around a cycle of
registered plugins, each of which imports from the one in front of it. -/
theorem evidence_of_cycle {ids : List String}
    (h : (catalog.resolve c).result = .error (.cycle ids)) : catalog.Evidence ids := by
  obtain ⟨ids', heq, hevidence⟩ := exists_evidence h
  cases heq
  exact hevidence

/-- A catalogue with a cycle of imports, one of them for a service that is not there, next to two
edges between the same plugins and an import from a plugin outside of the cycle. -/
def entangled : Catalog where
  entries := [
    ("base", ⟨"base", none, [⟨"s", "1.0.0", .service, "service"⟩], []⟩),
    ("a", ⟨"a", none, [⟨"s", "1.0.0", .service, "service"⟩],
      [⟨"base", "s", "s", .text "*", none⟩, ⟨"c", "s", "s", .text "*", none⟩]⟩),
    ("b", ⟨"b", none, [⟨"s", "1.0.0", .service, "service"⟩],
      [⟨"a", "t", "t", .text "*", none⟩, ⟨"a", "s", "s", .text "*", none⟩]⟩),
    ("c", ⟨"c", none, [⟨"s", "1.0.0", .service, "service"⟩],
      [⟨"b", "s", "s", .text "*", none⟩]⟩)]
  nodup_keys := by decide

theorem evidence_of_cycle_entangled :
    (entangled.resolve .default).result = .error (.cycle ["a", "b", "c", "a"]) ∧
      entangled.Evidence ["a", "b", "c", "a"] :=
  ⟨rfl, evidence_of_cycle (c := .default) rfl⟩

end PluginOrder.Catalog
