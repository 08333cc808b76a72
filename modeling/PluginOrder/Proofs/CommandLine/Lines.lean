import PluginOrder.Proofs.CommandLine.Answer
import Mathlib.Data.List.Perm.Basic

/-!
# The lines of a graph, and what they say of a resolution

`graph` prints what every single import comes to, and `resolve` what the plugins come to in the end.
The lines of a graph are one for each import of the catalogue, and one for each plugin from which
nobody imports (`perm_graphLines`): the graph keeps the imports of the catalogue grouped by their
providers, and grouping loses nothing (`perm_flatMap_filter`).  They are printed one by one, and
only one with a control sequence in it, as a colour, loses something on the way
(`not_lines_coloured`).

A plugin is rejected only if some import, its own or one further up, fails
(`exists_fails_of_broken`).  So a resolution without a cycle rejects a plugin if and only if a line
of the graph tells of some failing import (`graph_tells_rejects`).
-/

namespace PluginOrder

/-! ## Grouping -/

section Grouping

variable {α κ : Type} [DecidableEq κ]

/-- Items grouped by distinct keys are the same items. -/
theorem perm_flatMap_filter (key : α → κ) {keys : List κ} (hnodup : keys.Nodup) {items : List α}
    (hcovered : ∀ item ∈ items, key item ∈ keys) :
    (keys.flatMap fun k => items.filter fun item => key item = k).Perm items := by
  induction keys generalizing items with
  | nil =>
      have hnone : items = [] :=
        List.eq_nil_iff_forall_not_mem.mpr fun item hitem => List.not_mem_nil (hcovered item hitem)
      rw [hnone]
      exact .refl _
  | cons k rest ih =>
      rw [List.nodup_cons] at hnodup
      -- the other groups are those of the items with another key
      have hothers : (rest.flatMap fun other => items.filter fun item => key item = other) =
          rest.flatMap fun other =>
            (items.filter fun item => !decide (key item = k)).filter
              fun item => key item = other := by
        refine List.flatMap_congr fun other hother => ?_
        rw [List.filter_filter]
        refine List.filter_congr fun item _ => ?_
        have hne : other ≠ k := fun heq => hnodup.1 (heq ▸ hother)
        by_cases hkey : key item = other <;> simp [hkey, hne]
      have hrest : (rest.flatMap fun other => items.filter fun item => key item = other).Perm
          (items.filter fun item => !decide (key item = k)) := by
        rw [hothers]
        refine ih hnodup.2 fun item hitem => ?_
        obtain ⟨hmem, hne⟩ := List.mem_filter.mp hitem
        exact (List.mem_cons.mp (hcovered item hmem)).resolve_left (by simpa using hne)
      rw [List.flatMap_cons]
      exact (hrest.append_left _).trans (List.filter_append_perm _ items)

end Grouping

namespace Catalog

variable (c : Config) (catalog : Catalog)

/-- The identifiers that are imported from, import by import. -/
def sources : List String :=
  catalog.entries.flatMap fun entry => entry.2.imports.map (·.sourcePlugin)

/-- The status that the line of an import shows. -/
def statusOf (i : Import) : String :=
  match catalog.outcome c i with
  | .bound _ => "ok"
  | .refused reason => reason.status.code

/-- The line of an import, if its range has a text. -/
def importLine? (importer : String) (i : Import) : Option String :=
  i.versionRange.display?.map fun range =>
    i.sourcePlugin ++ " --" ++ i.sourceName ++ "@" ++ range ++ "--> " ++ importer ++ " [" ++
      catalog.statusOf c i ++ "]"

/-- The lines of all imports, plugin by plugin. -/
def importLines : List (Option String) :=
  catalog.entries.flatMap fun entry => entry.2.imports.map (catalog.importLine? c entry.1)

/-- The plugins that nobody imports from. -/
def unasked : List String := catalog.keys.filter fun key => key ∉ catalog.sources

variable {c catalog}

theorem edgeLine?_edgeOf (importer : String) (i : Import) :
    CommandLine.edgeLine? (catalog.edgeOf c importer i) = catalog.importLine? c importer i := by
  unfold CommandLine.edgeLine? importLine? statusOf edgeOf Building.edgeOf
  cases catalog.outcome c i <;> rfl

theorem map_edgeLine?_edges :
    (catalog.edges c).map CommandLine.edgeLine? = catalog.importLines c := by
  simp only [edges, importLines, List.map_flatMap, List.map_map, Function.comp_def,
    edgeLine?_edgeOf]

def edgesFrom (c : Config) (catalog : Catalog) (id : String) : List Edge :=
  (catalog.edges c).filter fun edge => edge.provider = id

theorem entries_buildGraph (c : Config) (catalog : Catalog) :
    (catalog.buildGraph c).graph.entries = catalog.mentions.eraseDups.map fun id =>
      (id, { Node.fresh id with dependents := catalog.edgesFrom c id }) := by
  rw [Ledger.entries_eq_filterMap, keys_buildGraph, ← List.filterMap_eq_map]
  refine List.filterMap_congr fun id hid => ?_
  rw [get?_buildGraph, if_pos (List.mem_eraseDups.mp hid)]
  rfl

theorem mem_sources {id : String} :
    id ∈ catalog.sources ↔
      ∃ key p, catalog.get? key = some p ∧ ∃ i ∈ p.imports, i.sourcePlugin = id := by
  simp only [sources, List.mem_flatMap, List.mem_map, Prod.exists, Ledger.get?_eq_some_iff]

theorem edgesFrom_eq_nil_iff {id : String} :
    catalog.edgesFrom c id = [] ↔ id ∉ catalog.sources := by
  rw [edgesFrom, List.filter_eq_nil_iff, mem_sources]
  constructor
  · rintro hnone ⟨key, p, hp, i, hi, rfl⟩
    exact hnone _ (mem_edges.mpr ⟨key, p, hp, i, hi, rfl⟩) (decide_eq_true rfl)
  · intro hunasked edge hedge hprovider
    obtain ⟨key, p, hp, i, hi, rfl⟩ := mem_edges.mp hedge
    exact hunasked ⟨key, p, hp, i, hi, of_decide_eq_true hprovider⟩

theorem provider_mem_mentions {edge : Edge} (hedge : edge ∈ catalog.edges c) :
    edge.provider ∈ catalog.mentions := by
  obtain ⟨key, p, hp, i, hi, rfl⟩ := mem_edges.mp hedge
  exact mem_mentions.mpr (.inr ⟨key, p, hp, i, hi, rfl⟩)

theorem nodup_mentions (catalog : Catalog) : catalog.mentions.eraseDups.Nodup := by
  rw [← keys_buildGraph default]
  exact (catalog.buildGraph default).graph.nodup_keys

/-- The nodes without edges are the plugins that nobody imports from. -/
theorem perm_unasked :
    (catalog.mentions.eraseDups.filter fun id => (catalog.edgesFrom c id).isEmpty).Perm
      catalog.unasked := by
  refine (List.perm_ext_iff_of_nodup (catalog.nodup_mentions.filter _)
    (catalog.nodup_keys.filter _)).mpr fun id => ?_
  simp only [List.mem_filter, List.mem_eraseDups, List.isEmpty_iff, edgesFrom_eq_nil_iff,
    mem_mentions, ← mem_sources, decide_eq_true_eq]
  constructor
  · rintro ⟨hkey | hsource, hunasked⟩
    · exact ⟨hkey, hunasked⟩
    · exact absurd hsource hunasked
  · rintro ⟨hkey, hunasked⟩
    exact ⟨.inl hkey, hunasked⟩

theorem flatMap_ite_singleton {α : Type} (p : α → Bool) (l : List α) :
    (l.flatMap fun a => if p a then [a] else []) = l.filter p := by
  induction l with
  | nil => rfl
  | cons a rest ih =>
      rw [List.flatMap_cons, ih, List.filter_cons]
      cases p a <;> rfl

/-- The lines of the nodes are the lines of all imports and the plugins that nobody imports from. -/
theorem perm_nodeLines (c : Config) (catalog : Catalog) :
    ((catalog.buildGraph c).graph.entries.flatMap fun entry =>
        CommandLine.nodeLines entry.1 entry.2).Perm
      (catalog.importLines c ++ catalog.unasked.map some) := by
  -- a node has one line for each import from it, or its bare name if there is none
  have hlines : ((catalog.buildGraph c).graph.entries.flatMap fun entry =>
        CommandLine.nodeLines entry.1 entry.2) =
      catalog.mentions.eraseDups.flatMap fun id =>
        (catalog.edgesFrom c id).map CommandLine.edgeLine? ++
          (if (catalog.edgesFrom c id).isEmpty then [id] else []).map some := by
    rw [entries_buildGraph, List.flatMap_map]
    refine List.flatMap_congr fun id _ => ?_
    unfold CommandLine.nodeLines
    cases catalog.edgesFrom c id with
    | nil => rfl
    | cons edge rest => exact (List.append_nil _).symm
  have hedges : (catalog.mentions.eraseDups.flatMap fun id =>
      (catalog.edgesFrom c id).map CommandLine.edgeLine?).Perm (catalog.importLines c) := by
    rw [← map_edgeLine?_edges, ← List.map_flatMap]
    refine (perm_flatMap_filter Edge.provider catalog.nodup_mentions ?_).map _
    exact fun edge hedge => List.mem_eraseDups.mpr (provider_mem_mentions hedge)
  have hbare : (catalog.mentions.eraseDups.flatMap fun id =>
      (if (catalog.edgesFrom c id).isEmpty then [id] else []).map some).Perm
        (catalog.unasked.map some) := by
    rw [← List.map_flatMap, flatMap_ite_singleton]
    exact perm_unasked.map some
  rw [hlines]
  exact (List.flatMap_append_perm _ _ _).symm.trans (hedges.append hbare)

/-- If every range has a text, every import has a line. -/
theorem exists_map_some_importLines (c : Config) (h : catalog.Legible) :
    ∃ edges : List String, edges.map some = catalog.importLines c := by
  have hall : ∀ line ∈ catalog.importLines c, id line ≠ none := by
    intro line hline hnone
    obtain ⟨⟨key, p⟩, hentry, himport⟩ := List.mem_flatMap.mp hline
    obtain ⟨i, hi, rfl⟩ := List.mem_map.mp himport
    exact h key p (Ledger.get?_eq_some_iff.mpr hentry) i hi (Option.map_eq_none_iff.mp hnone)
  obtain ⟨edges, hedges⟩ := Text.exists_mapM_eq_some hall
  refine ⟨edges, ?_⟩
  rw [← Text.mapM_eq_some_iff.mp hedges, List.map_id]

/-- **The lines of a graph.**  If all imports have lines, these and the plugins that nobody imports
from are the lines of the graph. -/
theorem perm_graphLines {edges : List String} (h : edges.map some = catalog.importLines c) :
    ∃ lines, CommandLine.graphLines? (catalog.buildGraph c).graph = some lines ∧
      lines.Perm (edges ++ catalog.unasked) := by
  have hperm := perm_nodeLines c catalog
  rw [← h, ← List.map_append] at hperm
  -- the lines are those texts in another order, so none of them is missing
  obtain ⟨lines, hlines⟩ : ∃ lines,
      CommandLine.graphLines? (catalog.buildGraph c).graph = some lines := by
    refine Text.exists_mapM_eq_some fun line hline hnone => ?_
    obtain ⟨text, -, hsome⟩ := List.mem_map.mp (hperm.mem_iff.mp hline)
    rw [← hsome] at hnone
    cases hnone
  have himages := Text.mapM_eq_some_iff.mp hlines
  rw [List.map_id] at himages
  rw [himages] at hperm
  exact ⟨lines, hlines, (List.map_perm_map_iff (Option.some_injective _)).mp hperm⟩

/-! ## Lines and rejects -/

/-- Of a plugin that is broken, some import, its own or one further up, fails. -/
theorem exists_fails_of_broken {key : String} (h : catalog.Broken c key) :
    ∃ importer p i, catalog.get? importer = some p ∧ i ∈ p.imports ∧ ¬ catalog.Serves c i := by
  induction h with
  | failing hp hi hfails => exact ⟨_, _, _, hp, hi, hfails⟩
  | cascade _ _ _ ih => exact ih

theorem statusOf_ne_ok_iff {i : Import} : catalog.statusOf c i ≠ "ok" ↔ ¬ catalog.Serves c i := by
  unfold statusOf Serves outcome
  cases i.validate c (catalog.get? i.sourcePlugin) with
  | bound service => simp [Outcome.isValid]
  | refused reason =>
      simp only [Outcome.isValid, Bool.false_eq_true, not_false_eq_true, iff_true]
      cases reason.status <;> decide

theorem mem_rejected_of_statusOf {r : Resolution} (h : (catalog.resolve c).result = .ok r)
    {importer : String} {p : Plugin} {i : Import} (hp : catalog.get? importer = some p)
    (hi : i ∈ p.imports) (hstatus : catalog.statusOf c i ≠ "ok") : importer ∈ r.rejected :=
  (mem_rejected_iff h).mpr
    ⟨Ledger.mem_keys_iff.mpr ⟨p, hp⟩, .failing hp hi (statusOf_ne_ok_iff.mp hstatus)⟩

theorem rejects_ne_nil_iff {r : Resolution} (h : (catalog.resolve c).result = .ok r) :
    r.rejects ≠ [] ↔
      ∃ importer p i, catalog.get? importer = some p ∧ i ∈ p.imports ∧
        catalog.statusOf c i ≠ "ok" := by
  constructor
  · intro hrejects
    obtain ⟨reject, hreject⟩ := List.exists_mem_of_ne_nil _ hrejects
    have hrejected : reject.key ∈ r.rejected := List.mem_map_of_mem hreject
    obtain ⟨importer, p, i, hp, hi, hfails⟩ :=
      exists_fails_of_broken ((mem_rejected_iff h).mp hrejected).2
    exact ⟨importer, p, i, hp, hi, statusOf_ne_ok_iff.mpr hfails⟩
  · rintro ⟨importer, p, i, hp, hi, hstatus⟩ hnone
    have hrejected := mem_rejected_of_statusOf h hp hi hstatus
    simp [Resolution.rejected, hnone] at hrejected

end Catalog

namespace CommandLine

variable {env env' : Config.Environment} {files : Snapshot} {arguments arguments' : List String}
  {c c' : Config} {call call' : Invocation} {plugins : List Plugin} {catalog : Catalog}

theorem run_of_graph (h : Calls env arguments .graph c call) (clock : Clock)
    (hloaded : (Definition.loadAll files call.paths).result = .ok plugins)
    (hlatest : Latest plugins catalog) {lines : List String}
    (hlines : graphLines? (catalog.buildGraph c).graph = some lines) :
    (run clock env files arguments).exit = 0 ∧
      (run clock env files arguments).output = joinTexts "\n" (lines.map shown) ++ "\n" := by
  obtain ⟨style, hrun⟩ := run_of_calls h clock files
  obtain ⟨parts, hsilent, hreport⟩ := withPlugins_ok (call.perform .graph c) hloaded hlatest
  have hparts := (hsilent.append (silent_events (catalog.buildGraph c).journal)).append
    (silent_events [.graphPrinted (catalog.buildGraph c).graph.size lines.length])
  rw [hrun, hreport, ← printed_joinTexts]
  have hresult := output_print_of_result hparts (printed (joinTexts "\n" lines)) .success style
  simp only [Invocation.perform, runGraph, hlines]
  refine ⟨rfl, ?_⟩
  simpa [List.append_assoc] using hresult

/-- **The lines of a graph and the rejects of a resolution.**  If both commands are called with the
same definitions and flags, `graph` prints a line for each import, and for each plugin from which
nobody imports, without the control sequences that are in it; and without a cycle `resolve` ends
with rejects if and only if one of these lines tells of an import that fails. -/
theorem graph_tells_rejects (hgraph : Calls env arguments .graph c call)
    (hresolve : Calls env' arguments' .resolve c' call') (hpaths : call'.paths = call.paths)
    (hflags : c.Agrees c') (hloaded : (Definition.loadAll files call.paths).result = .ok plugins)
    (hlatest : Latest plugins catalog) (clock clock' : Clock) :
    (run clock env files arguments).exit = 0 ∧
      (∃ edges lines : List String, edges.map some = catalog.importLines c ∧
        lines.Perm (edges ++ catalog.unasked) ∧
        (run clock env files arguments).output = joinTexts "\n" (lines.map shown) ++ "\n" ∧
        ∀ line ∈ lines, '\x1b' ∉ line.toList → shown line = line) ∧
      (¬ catalog.Cyclic → ∃ r, (catalog.resolve c').answer = .ok r ∧
        Shows call'.format r (run clock' env' files arguments').output ∧
        ((run clock' env' files arguments').exit = 6 ↔ ∃ importer p i,
          catalog.get? importer = some p ∧ i ∈ p.imports ∧ catalog.statusOf c i ≠ "ok") ∧
        ∀ importer p i, catalog.get? importer = some p → i ∈ p.imports →
          catalog.statusOf c i ≠ "ok" → importer ∈ r.rejected) := by
  -- what was loaded has texts for ranges, so all lines can be written
  obtain ⟨edges, hedges⟩ := Catalog.exists_map_some_importLines c (hlatest.legible hloaded)
  obtain ⟨lines, hlines, hperm⟩ := Catalog.perm_graphLines hedges
  obtain ⟨hexit, houtput⟩ := run_of_graph hgraph clock hloaded hlatest hlines
  refine ⟨hexit, ⟨edges, lines, hedges, hperm, houtput, fun _ _ => shown_of_not_mem⟩,
    fun hcyclic => ?_⟩
  obtain ⟨r, hresult⟩ := Catalog.exists_ok_of_not_cyclic c hcyclic
  have hresult' : (catalog.resolve c').result = .ok r := by rwa [← hflags.resolve_eq]
  rw [← hpaths] at hloaded
  obtain ⟨hanswer', hexit', houtput'⟩ := run_of_resolution hresolve clock' hloaded hlatest hresult'
  refine ⟨r, hanswer', houtput', ?_, fun _ _ _ => Catalog.mem_rejected_of_statusOf hresult⟩
  rw [hexit', ← Catalog.rejects_ne_nil_iff hresult]
  by_cases hnone : r.rejects = [] <;> simp [hnone]

/-- Both commands on a plugin on its own that imports from another one. -/
theorem graph_tells_rejects_lonely :
    ∃ plugins, (Definition.loadAll lonelyFiles [⟨"", ["b.json"]⟩]).result = .ok plugins ∧
      (run ⟨"2024-05-01T12:00:00Z", .int 0⟩ [] lonelyFiles ["graph", "b.json"]).exit = 0 ∧
      (∃ edges lines : List String, edges.map some = (register plugins).1.importLines .default ∧
        lines.Perm (edges ++ (register plugins).1.unasked) ∧
        (run ⟨"2024-05-01T12:00:00Z", .int 0⟩ [] lonelyFiles ["graph", "b.json"]).output =
          joinTexts "\n" (lines.map shown) ++ "\n") ∧
      ((run ⟨"2024-05-01T12:00:01Z", .int 0⟩ [] lonelyFiles ["resolve", "b.json"]).exit = 6 ↔
        ∃ importer p i, (register plugins).1.get? importer = some p ∧ i ∈ p.imports ∧
          (register plugins).1.statusOf .default i ≠ "ok") := by
  have hgraph := calls_single .graph "graph" (by decide)
  have hresolve := calls_single .resolve "resolve" (by decide)
  have hsorted : ((Definition.loadAll lonelyFiles [⟨"", ["b.json"]⟩]).result.toOption.bind
      fun plugins => ((register plugins).1.resolve .default).result.toOption).isSome = true := by
    decide +kernel
  obtain ⟨r, hr⟩ := Option.isSome_iff_exists.mp hsorted
  obtain ⟨plugins, hplugins, hresult⟩ := Option.bind_eq_some_iff.mp hr
  have hloaded := eq_ok_of_toOption hplugins
  have hcyclic : ¬ (register plugins).1.Cyclic :=
    Catalog.not_cyclic_of_ok (eq_ok_of_toOption hresult)
  obtain ⟨hexit, ⟨edges, lines, hedges, hperm, houtput, _⟩, hrejects⟩ :=
    graph_tells_rejects hgraph hresolve rfl ⟨rfl, rfl⟩ hloaded (latest_register plugins)
      ⟨"2024-05-01T12:00:00Z", .int 0⟩ ⟨"2024-05-01T12:00:01Z", .int 0⟩
  obtain ⟨_, _, _, hiff, _⟩ := hrejects hcyclic
  exact ⟨plugins, hloaded, hexit, ⟨edges, lines, hedges, hperm, houtput⟩, hiff⟩

/-- The line of a plugin with a colour in its identifier is not printed whole, in whatever order the
lines stand. -/
theorem not_lines_coloured :
    Calls [] ["graph", "b.json"] .graph .default
        ⟨false, .text, false, false, [⟨"", ["b.json"]⟩]⟩ ∧
      ∃ plugins catalog,
        (Definition.loadAll colouredFiles [⟨"", ["b.json"]⟩]).result = .ok plugins ∧
          Latest plugins catalog ∧ catalog.importLines .default = [] ∧
          catalog.unasked = ["\x1b[31mb"] ∧
          ∀ lines : List String, lines.Perm catalog.unasked →
            (run ⟨"2024-05-01T12:00:00Z", .int 0⟩ [] colouredFiles ["graph", "b.json"]).output ≠
              joinTexts "\n" lines ++ "\n" := by
  have hcalls := calls_single .graph "graph" (by decide)
  have hprinted : (run ⟨"2024-05-01T12:00:00Z", .int 0⟩ [] colouredFiles
      ["graph", "b.json"]).output = "b\n" := by decide +kernel
  have hcatalog : (Definition.loadAll colouredFiles [⟨"", ["b.json"]⟩]).result.toOption.map
      (fun plugins => ((register plugins).1.importLines .default, (register plugins).1.unasked)) =
        some ([], ["\x1b[31mb"]) := by decide +kernel
  obtain ⟨plugins, hplugins, hlines⟩ := Option.map_eq_some_iff.mp hcatalog
  obtain ⟨himports, hunasked⟩ := Prod.mk.inj hlines
  refine ⟨hcalls, plugins, (register plugins).1, eq_ok_of_toOption hplugins,
    latest_register plugins, himports, hunasked, fun lines hperm => ?_⟩
  rw [hunasked, List.perm_singleton] at hperm
  rw [hprinted, hperm]
  decide

end CommandLine

end PluginOrder
