import PluginOrder.Proofs.Resolution.Partition
import PluginOrder.Proofs.Resolution.Telling
import PluginOrder.Proofs.Walk.Report

/-!
# What a resolution tells about itself

Building a graph, sorting it and collecting the outcome each report what they do, and the span of
the resolution counts it.  `told_of_resolve` says that all of this agrees with what the caller is
given.  Events are compared as a log shows them, by their names and fields (`Event.logged`).

The journal falls into three parts.  While the graph is built, every import is reported with what it
was matched with (`journal_buildGraph`).  While it is sorted, every reject of the walk is reported
as it is written down (`Untouched.journal_of_sort`); these rejects are those of the decision in
another order, since only registered plugins are broken (`perm_rejects`).  And if the sort returns,
the decision itself is reported, as far as it can be told.  The events of one kind all come from one
part.
-/

namespace PluginOrder

/-- An event in a log: its name and its fields. -/
abbrev LogEntry := String × List (String × Value)

namespace Event

/-- An event as a log shows it. -/
def logged (e : Event) : LogEntry := (e.name, e.fields)

/-- An event has one of some names. -/
def isNamed (names : List String) (e : Event) : Bool := names.contains e.name

/-- The event belongs to the time before the walk begins. -/
def isEarly : Event → Bool
  | .resolutionStarted .. | .standalonePlugin .. | .dependencyResolved .. | .dependencyInvalid ..
  | .graphBuilt .. => true
  | _ => false

/-- The names of events that are reported once the walk has begun. -/
def lateNames : List String :=
  ["sort_graph.rejecting", "sort_graph.circular_dependency", "resolve.plugin_rejected",
    "resolve.completed"]

theorem isEarly_of_isNamed {name : String} (hname : name ∈ lateNames) {event : Event}
    (h : event.isNamed [name] = true) : event.isEarly = false := by
  have hlate : event.name ∈ lateNames := by
    have heq : event.name = name := by simpa [isNamed] using h
    exact heq ▸ hname
  cases event <;> first | rfl | simp [Event.name, lateNames] at hlate

end Event

/-- What a log has of the events with some names. -/
def logOf (names : List String) (journal : List Event) : List LogEntry :=
  (journal.filter (Event.isNamed names)).map Event.logged

theorem logOf_append (names : List String) (journal more : List Event) :
    logOf names (journal ++ more) = logOf names journal ++ logOf names more := by
  simp only [logOf, List.filter_append, List.map_append]

theorem logOf_eq_nil {names : List String} {journal : List Event}
    (h : ∀ event ∈ journal, event.isNamed names = false) : logOf names journal = [] := by
  have hnone : journal.filter (Event.isNamed names) = [] :=
    List.filter_eq_nil_iff.mpr fun event hevent => Bool.eq_false_iff.mp (h event hevent)
  rw [logOf, hnone, List.map_nil]

theorem logOf_eq_map {names : List String} {journal : List Event}
    (h : ∀ event ∈ journal, event.isNamed names = true) :
    logOf names journal = journal.map Event.logged := by
  rw [logOf, List.filter_eq_self.mpr h]

/-- A log has all events of one name, or none. -/
theorem logOf_of_name {name : String} {journal : List Event}
    (h : ∀ event ∈ journal, event.name = name) (names : List String) :
    logOf names journal = if names.contains name then journal.map Event.logged else [] := by
  split
  · rename_i hnamed
    exact logOf_eq_map fun event hevent => by rw [Event.isNamed, h event hevent, hnamed]
  · rename_i hother
    refine logOf_eq_nil fun event hevent => ?_
    rw [Event.isNamed, h event hevent]
    exact Bool.eq_false_iff.mpr hother

/-! ## What is to be told -/

/-- What is to be told of an import that was matched with its provider. -/
def Import.logEntry (importer : String) (i : Import) : Outcome → LogEntry
  | .bound service =>
    ("build_graph.dependency_resolved", [("provider", .text i.sourcePlugin),
      ("importer", .text importer), ("service", .text i.sourceName),
      ("version", .text service.version)])
  | .refused reason =>
    ("build_graph.dependency_invalid", [("provider", .text i.sourcePlugin),
      ("importer", .text importer), ("service", .text i.sourceName),
      ("status", .text reason.status.code)])

/-- What is to be told of a reject while the graph is sorted. -/
def Reject.sortEntry (reject : Reject) : LogEntry :=
  ("sort_graph.rejecting", [("plugin_id", .text reject.key),
    ("status", .text reject.reason.status.code), ("cause", .text reject.reason.plugin)])

/-- What is to be told of a reject in the end, with its reason in words. -/
def Reject.logEntry? (reject : Reject) : Option LogEntry :=
  reject.reason.format?.map fun reason =>
    ("resolve.plugin_rejected", [("plugin_id", .text reject.key),
      ("status", .text reject.reason.status.code), ("reason", .text reason)])

/-- The names of the events that tell what an import was matched with. -/
def matchingNames : List String :=
  ["build_graph.dependency_resolved", "build_graph.dependency_invalid"]

/-- What is to be told of the imports of a catalogue, plugin by plugin and import by import. -/
def Catalog.matchings (c : Config) (catalog : Catalog) : List LogEntry :=
  catalog.entries.flatMap fun (key, p) =>
    p.imports.map fun i => i.logEntry key (i.validate c (catalog.get? i.sourcePlugin))

/-! ## Building the graph -/

namespace Building

variable (c : Config) (catalog : Catalog)

/-- What is reported on a plugin while the graph is built. -/
def eventsOf (key : String) (p : Plugin) : List Event :=
  if p.hasImports then p.imports.map fun i => eventOf key i (catalog.outcome c i)
  else [.standalonePlugin key]

theorem journal_addImports (importer : String) (b : Building) (imports : List Import) :
    (addImports c catalog importer b imports).1.journal =
      b.journal ++ imports.map fun i => eventOf importer i (catalog.outcome c i) := by
  induction imports generalizing b with
  | nil => simp [addImports]
  | cons i rest ih =>
      simp only [addImports, ih, List.map_cons]
      exact List.append_assoc _ _ _

theorem journal_addPlugin (b : Building) (key : String) (p : Plugin) :
    (addPlugin c catalog b key p).1.journal = b.journal ++ eventsOf c catalog key p := by
  unfold addPlugin eventsOf
  split
  · exact journal_addImports c catalog key _ p.imports
  · rfl

theorem journal_foldl_addPlugin (b : Building) (entries : List (String × Plugin)) :
    (entries.foldl (fun b entry => (addPlugin c catalog b entry.1 entry.2).1) b).journal =
      b.journal ++ entries.flatMap fun entry => eventsOf c catalog entry.1 entry.2 := by
  induction entries generalizing b with
  | nil => simp
  | cons entry rest ih =>
      rw [List.foldl_cons, ih, journal_addPlugin, List.flatMap_cons, List.append_assoc]

end Building

namespace Catalog

/-- **The journal of a graph.**  It tells of one plugin after the other, and at last of the
graph. -/
theorem journal_buildGraph (c : Config) (catalog : Catalog) :
    (catalog.buildGraph c).journal =
      (catalog.entries.flatMap fun entry => Building.eventsOf c catalog entry.1 entry.2) ++
        [.graphBuilt (catalog.buildGraph c).graph.size] := by
  have hfold := Building.journal_foldl_addPlugin c catalog ⟨∅, []⟩ catalog.entries
  rw [← Ledger.fst_traverse] at hfold
  exact congrArg (· ++ _) hfold

variable {c : Config} {catalog : Catalog}

theorem logged_eventOf (importer : String) (i : Import) (outcome : Outcome) :
    (Building.eventOf importer i outcome).logged = i.logEntry importer outcome ∧
      (Building.eventOf importer i outcome).isNamed matchingNames = true := by
  cases outcome <;> exact ⟨rfl, rfl⟩

theorem logOf_eventsOf (key : String) (p : Plugin) :
    logOf matchingNames (Building.eventsOf c catalog key p) =
      p.imports.map fun i => i.logEntry key (catalog.outcome c i) := by
  unfold Building.eventsOf
  split
  · rw [logOf_eq_map, List.map_map]
    · exact List.map_congr_left fun i _ => (logged_eventOf key i _).1
    · intro event hevent
      obtain ⟨i, _, rfl⟩ := List.mem_map.mp hevent
      exact (logged_eventOf key i _).2
  · rename_i hnone
    have himports : p.imports = [] := by simpa [Plugin.hasImports] using hnone
    rw [himports]
    rfl

/-- Building a graph tells of every import once, in the order of the catalogue. -/
theorem matchings_buildGraph (c : Config) (catalog : Catalog) :
    logOf matchingNames (catalog.buildGraph c).journal = catalog.matchings c := by
  have hentries (entries : List (String × Plugin)) :
      logOf matchingNames
          (entries.flatMap fun entry => Building.eventsOf c catalog entry.1 entry.2) =
        entries.flatMap fun (key, p) =>
          p.imports.map fun i => i.logEntry key (catalog.outcome c i) := by
    induction entries with
    | nil => rfl
    | cons entry rest ih =>
        rw [List.flatMap_cons, logOf_append, logOf_eventsOf, ih, List.flatMap_cons]
  rw [journal_buildGraph, logOf_append, hentries]
  exact List.append_nil _

theorem isEarly_of_mem_buildGraph {event : Event} (h : event ∈ (catalog.buildGraph c).journal) :
    event.isEarly = true := by
  rw [journal_buildGraph] at h
  rcases List.mem_append.mp h with hplugin | hlast
  · obtain ⟨entry, _, hentry⟩ := List.mem_flatMap.mp hplugin
    unfold Building.eventsOf at hentry
    split at hentry
    · obtain ⟨i, _, rfl⟩ := List.mem_map.mp hentry
      cases catalog.outcome c i <;> rfl
    · rw [List.mem_singleton.mp hentry]
      rfl
  · rw [List.mem_singleton.mp hlast]
    rfl

theorem logOf_opening {name : String} (hname : name ∈ Event.lateNames) :
    logOf [name] (.resolutionStarted catalog.size :: (catalog.buildGraph c).journal) = [] := by
  refine logOf_eq_nil fun event hevent => ?_
  have hearly : event.isEarly = true := by
    rcases List.mem_cons.mp hevent with rfl | hbuilt
    · rfl
    · exact isEarly_of_mem_buildGraph hbuilt
  by_contra hnamed
  rw [Event.isEarly_of_isNamed hname (Bool.not_eq_false _ ▸ hnamed)] at hearly
  cases hearly

/-! ## Sorting it -/

/-- The rejects of the answer are those that the walk wrote down, in another order. -/
theorem perm_rejects {w : Walk} (h : (catalog.buildGraph c).graph.sort = .ok w) :
    (((catalog.rebind c).collect w).rejects.map fun reject => (reject.key, reject.reason)).Perm
      w.rejects.entries := by
  refine (List.perm_ext_iff_of_nodup ?_ (.of_map Prod.fst w.rejects.nodup_keys)).mpr ?_
  · refine .of_map Prod.fst ?_
    have hsublist : ((catalog.rebind c).collect w).rejected.Sublist (catalog.rebind c).keys := by
      rw [rejected_collect]
      exact List.filter_sublist
    rw [List.map_map]
    exact (catalog.rebind c).nodup_keys.sublist hsublist
  · rintro ⟨key, reason⟩
    rw [← Ledger.get?_eq_some_iff]
    constructor
    · intro hmem
      obtain ⟨reject, hreject, heq⟩ := List.mem_map.mp hmem
      cases heq
      exact (mem_collect_rejects_iff.mp hreject).2
    · intro hreason
      -- the walk has a reason for broken nodes only, and nobody's identifier is never broken
      have hdoomed := (sorted_of_sort h).mem_rejects_iff.mp (Ledger.mem_keys_iff.mpr ⟨_, hreason⟩)
      have hkey := (doomed_buildGraph.mp hdoomed).mem_keys
      rw [← keys_rebind c] at hkey
      obtain ⟨p, hp⟩ := Ledger.mem_keys_iff.mp hkey
      exact List.mem_map.mpr ⟨⟨key, reason, p⟩, mem_collect_rejects_iff.mpr ⟨hp, hreason⟩, rfl⟩

/-! ## The whole resolution -/

/-- What the log and the span of a resolution tell of what was decided. -/
structure TellsDecision (c : Config) (catalog : Catalog) (r : Resolution) (run : Run) : Prop where
  /-- The walk reports each rejected plugin once, with the status and the culprit of its reason. -/
  nodesRejected : (logOf ["sort_graph.rejecting"] run.journal).Perm (r.rejects.map Reject.sortEntry)
  nodup_rejected : r.rejected.Nodup
  no_cycle : logOf ["sort_graph.circular_dependency"] run.journal = []
  attributes : run.span.attributes =
    [("tessera.plugin_count", .nat catalog.size),
      ("tessera.node_count", .nat (catalog.buildGraph c).graph.size),
      ("tessera.accepted_count", .nat r.accepted.length),
      ("tessera.rejected_count", .nat r.rejects.length)]
  /-- The counts fit together. -/
  accepted_add_rejected : r.accepted.length + r.rejects.length = catalog.size
  size_le : catalog.size ≤ (catalog.buildGraph c).graph.size

/-- What the log and the span of a resolution tell if it returns. -/
structure TellsReturn (c : Config) (catalog : Catalog) (r : Resolution) (run : Run) : Prop extends
    TellsDecision c catalog r run where
  /-- Each reject is reported in the end, in the order of the answer. -/
  pluginsRejected : (logOf ["resolve.plugin_rejected"] run.journal).map some =
    r.rejects.map Reject.logEntry?
  /-- The outcome is reported once. -/
  completed : logOf ["resolve.completed"] run.journal =
    [("resolve.completed", [("order", .texts r.order), ("rejected", .texts r.rejected)])]
  failure : run.span.failure = none

/-- What the log and the span of a resolution tell if one of the rejects cannot be told of. -/
structure TellsUntold (c : Config) (catalog : Catalog) (r : Resolution) (reject : Reject)
    (run : Run) : Prop extends TellsDecision c catalog r run where
  /-- The rejects in front of this one are reported, and then no more. -/
  pluginsRejected : ∃ front rest, r.rejects = front ++ reject :: rest ∧
    (logOf ["resolve.plugin_rejected"] run.journal).map some = front.map Reject.logEntry?
  not_completed : logOf ["resolve.completed"] run.journal = []

/-- What the log and the span of a resolution tell if it fails at a cycle. -/
structure TellsCycle (ids : List String) (run : Run) : Prop where
  /-- The cycle is reported once. -/
  cycle : logOf ["sort_graph.circular_dependency"] run.journal =
    [("sort_graph.circular_dependency", [("cycle", .texts ids)])]
  noted : run.span.attributes.lookup "tessera.cycle" = some (.texts ids)
  failure : run.span.failure = some (PluginError.message (.cycle ids))
  not_completed : logOf ["resolve.completed"] run.journal = []
  no_plugins : logOf ["resolve.plugin_rejected"] run.journal = []
  not_counted : ∀ name ∈ ["tessera.node_count", "tessera.accepted_count", "tessera.rejected_count"],
    name ∉ run.span.attributes.map Prod.fst

theorem size_le_buildGraph (c : Config) (catalog : Catalog) :
    catalog.size ≤ (catalog.buildGraph c).graph.size := by
  have hsubset : catalog.keys ⊆ (catalog.buildGraph c).graph.keys := fun key hkey =>
    mem_keys_buildGraph.mpr (mem_mentions.mpr (Or.inl hkey))
  have hlength := (List.subperm_of_subset catalog.nodup_keys hsubset).length_le
  simpa [Ledger.keys, Ledger.size] using hlength

theorem journal_of_sort {w : Walk} (h : (catalog.buildGraph c).graph.sort = .ok w) :
    (catalog.resolve c).journal =
      .resolutionStarted catalog.size :: (catalog.buildGraph c).journal ++
        w.rejects.entries.map Event.ofReject ++ ((catalog.rebind c).collect w).closing := by
  rw [← (untouched_buildGraph c catalog).journal_of_sort h, ← catalog_buildGraph]
  simp only [resolve, h]

theorem journal_of_sort_error {halt : Halt} (h : (catalog.buildGraph c).graph.sort = .error halt) :
    ∃ ids, halt.fault = .cycle ids ∧ ∃ rejects : Ledger Rejection, (catalog.resolve c).journal =
      .resolutionStarted catalog.size :: (catalog.buildGraph c).journal ++
        rejects.entries.map Event.ofReject ++ [.cycleFound ids] := by
  obtain ⟨ids, hfault, rejects, hjournal⟩ :=
    (untouched_buildGraph c catalog).journal_of_sort_error h
  refine ⟨ids, hfault, rejects, ?_⟩
  rw [List.append_assoc, ← hjournal]
  simp only [resolve, h]

/-! ### What each part tells -/

theorem logged_ofReject (names : List String) (entries : List (String × Rejection)) :
    logOf names (entries.map Event.ofReject) =
      if names.contains "sort_graph.rejecting" then
        (entries.map Event.ofReject).map Event.logged else [] := by
  refine logOf_of_name (fun event hevent => ?_) names
  obtain ⟨entry, _, rfl⟩ := List.mem_map.mp hevent
  rfl

theorem logEntry?_eq (reject : Reject) : reject.logEntry? = reject.event?.map Event.logged := by
  rw [Reject.logEntry?, Reject.event?, Option.map_map]
  rfl

theorem logOf_told (names : List String) (r : Resolution) :
    logOf names r.told =
      if names.contains "resolve.plugin_rejected" then r.told.map Event.logged else [] := by
  refine logOf_of_name (fun event hevent => ?_) names
  obtain ⟨reject, _, hevent⟩ := List.mem_filterMap.mp hevent
  obtain ⟨reason, _, rfl⟩ := Option.map_eq_some_iff.mp hevent
  rfl

/-- Of a reject as it is told of in the end, the log has the entry that it is to have. -/
theorem map_logged_told {r : Resolution} {front : List Reject}
    (h : r.told.map some = front.map Reject.event?) :
    (r.told.map Event.logged).map some = front.map Reject.logEntry? := by
  calc (r.told.map Event.logged).map some
      = (r.told.map some).map (Option.map Event.logged) := by simp [Function.comp_def]
    _ = front.map Reject.logEntry? := by
        rw [h, List.map_map]
        exact List.map_congr_left fun reject _ => (logEntry?_eq reject).symm

/-- Of a kind that comes later, the walk and the end of the resolution alone tell. -/
theorem logOf_of_sort {w : Walk} (h : (catalog.buildGraph c).graph.sort = .ok w) {name : String}
    (hname : name ∈ Event.lateNames) :
    logOf [name] (catalog.resolve c).journal =
      logOf [name] (w.rejects.entries.map Event.ofReject) ++
        logOf [name] ((catalog.rebind c).collect w).closing := by
  rw [journal_of_sort h, logOf_append, logOf_append, logOf_opening hname, List.nil_append]

theorem logOf_of_sort_error {ids : List String} {rejects : Ledger Rejection}
    (h : (catalog.resolve c).journal = .resolutionStarted catalog.size ::
      (catalog.buildGraph c).journal ++ rejects.entries.map Event.ofReject ++ [.cycleFound ids])
    {name : String} (hname : name ∈ Event.lateNames) :
    logOf [name] (catalog.resolve c).journal =
      logOf [name] (rejects.entries.map Event.ofReject) ++ logOf [name] [.cycleFound ids] := by
  rw [h, logOf_append, logOf_append, logOf_opening hname, List.nil_append]

/-- In the end nothing is told but rejects and the outcome. -/
theorem logOf_closing {names : List String} (r : Resolution)
    (hrejected : "resolve.plugin_rejected" ∉ names) (hcompleted : "resolve.completed" ∉ names) :
    logOf names r.closing = [] := by
  have htold : logOf names r.told = [] := by
    rw [logOf_told, if_neg (by simpa using hrejected)]
  have hlast : logOf names [.resolutionCompleted r.order r.rejected] = [] := by
    refine logOf_eq_nil fun event hevent => ?_
    rw [List.mem_singleton.mp hevent]
    simpa [Event.isNamed, Event.name] using hcompleted
  unfold Resolution.closing
  split
  · exact htold
  · rw [logOf_append, htold, hlast, List.append_nil]

/-- In the end the log has those rejects that can be told of. -/
theorem logOf_pluginsRejected {w : Walk} (h : (catalog.buildGraph c).graph.sort = .ok w) :
    logOf ["resolve.plugin_rejected"] (catalog.resolve c).journal =
      ((catalog.rebind c).collect w).told.map Event.logged := by
  have hclosing : logOf ["resolve.plugin_rejected"] ((catalog.rebind c).collect w).closing =
      ((catalog.rebind c).collect w).told.map Event.logged := by
    unfold Resolution.closing
    split
    · exact logOf_told _ _
    · rw [logOf_append, logOf_told]
      exact List.append_nil _
  rw [logOf_of_sort h (by decide), logged_ofReject, hclosing]
  rfl

theorem matchings_resolve (c : Config) (catalog : Catalog) :
    logOf matchingNames (catalog.resolve c).journal = catalog.matchings c := by
  have hopening : logOf matchingNames
      (.resolutionStarted catalog.size :: (catalog.buildGraph c).journal) = catalog.matchings c :=
    matchings_buildGraph c catalog
  have hsorted (rejects : Ledger Rejection) :
      logOf matchingNames (rejects.entries.map Event.ofReject) = [] := logged_ofReject _ _
  cases hsort : (catalog.buildGraph c).graph.sort with
  | ok w =>
      rw [journal_of_sort hsort, logOf_append, logOf_append, hopening, hsorted,
        logOf_closing _ (by decide) (by decide), List.append_nil, List.append_nil]
  | error halt =>
      obtain ⟨_, _, rejects, hjournal⟩ := journal_of_sort_error hsort
      rw [hjournal, logOf_append, logOf_append, hopening, hsorted, List.append_nil]
      exact List.append_nil _

theorem length_accepted_add_rejects {r : Resolution} (h : (catalog.resolve c).result = .ok r) :
    r.accepted.length + r.rejects.length = catalog.size := by
  have hperm : (r.accepted.map Prod.fst ++ r.rejected).Perm catalog.keys :=
    (List.perm_ext_iff_of_nodup (nodup_decided h) catalog.nodup_keys).mpr
      fun _ => mem_decided_iff h
  simpa [Resolution.rejected, Ledger.keys, Ledger.size] using hperm.length_eq

theorem tellsDecision {w : Walk} (h : (catalog.buildGraph c).graph.sort = .ok w) :
    TellsDecision c catalog ((catalog.rebind c).collect w) (catalog.resolve c) := by
  have hresult : (catalog.resolve c).result = .ok ((catalog.rebind c).collect w) := by
    rw [result_resolve, h]
  constructor
  case nodesRejected =>
    -- the walk tells of the rejects as it finds them, the answer lists them by registry
    have hlog : logOf ["sort_graph.rejecting"] (w.rejects.entries.map Event.ofReject) =
        (w.rejects.entries.map Event.ofReject).map Event.logged := logged_ofReject _ _
    have hperm := ((perm_rejects h).map Event.ofReject).map Event.logged
    rw [List.map_map, List.map_map] at hperm
    rw [logOf_of_sort h (by decide), logOf_closing _ (by decide) (by decide), List.append_nil, hlog]
    exact hperm.symm
  case nodup_rejected => exact (List.nodup_append.mp (nodup_decided hresult)).2.1
  case no_cycle =>
    rw [logOf_of_sort h (by decide), logOf_closing _ (by decide) (by decide), List.append_nil]
    exact logged_ofReject _ _
  case attributes => simp only [resolve, h, catalog_buildGraph]
  case accepted_add_rejected => exact length_accepted_add_rejects hresult
  case size_le => exact size_le_buildGraph c catalog

theorem tellsReturn {w : Walk} (h : (catalog.buildGraph c).graph.sort = .ok w)
    (huntold : ((catalog.rebind c).collect w).untold? = none) :
    TellsReturn c catalog ((catalog.rebind c).collect w) (catalog.resolve c) := by
  obtain ⟨hclosing, htold⟩ := Resolution.closing_of_untold? huntold
  refine ⟨tellsDecision h, ?_, ?_, ?_⟩
  · rw [logOf_pluginsRejected h]
    exact map_logged_told htold
  · rw [logOf_of_sort h (by decide), logged_ofReject, hclosing, logOf_append, logOf_told]
    rfl
  · simp only [resolve, h]

theorem tellsUntold {w : Walk} (h : (catalog.buildGraph c).graph.sort = .ok w) {reject : Reject}
    (huntold : ((catalog.rebind c).collect w).untold? = some reject) :
    TellsUntold c catalog ((catalog.rebind c).collect w) reject (catalog.resolve c) := by
  obtain ⟨hnone, front, rest, hrejects, hfront⟩ := Resolution.untold?_eq_some_iff.mp huntold
  -- the log goes as far as the rejects in front of this one
  obtain ⟨hclosing, htold⟩ := Resolution.closing_of_untold hrejects hfront hnone
  refine ⟨tellsDecision h, ⟨front, rest, hrejects, ?_⟩, ?_⟩
  · rw [logOf_pluginsRejected h]
    exact map_logged_told htold
  · rw [logOf_of_sort h (by decide), logged_ofReject, hclosing, logOf_told]
    rfl

theorem exists_tellsCycle {halt : Halt} (h : (catalog.buildGraph c).graph.sort = .error halt) :
    ∃ ids, halt.fault = .cycle ids ∧ TellsCycle ids (catalog.resolve c) := by
  obtain ⟨ids, hfault, rejects, hjournal⟩ := journal_of_sort_error h
  have hattributes : (catalog.resolve c).span.attributes =
      [("tessera.plugin_count", .nat catalog.size), ("tessera.cycle", .texts ids)] := by
    simp only [resolve, h, hfault]
  refine ⟨ids, hfault, ?_⟩
  constructor
  case cycle =>
    rw [logOf_of_sort_error hjournal (by decide), logged_ofReject]
    rfl
  case noted =>
    rw [hattributes]
    rfl
  case failure => simp only [resolve, h, hfault]
  case not_completed =>
    rw [logOf_of_sort_error hjournal (by decide), logged_ofReject]
    rfl
  case no_plugins =>
    rw [logOf_of_sort_error hjournal (by decide), logged_ofReject]
    rfl
  case not_counted =>
    rw [hattributes]
    simp

/-- **What a resolution tells agrees with what the caller is given.**  Every import is told of once,
with what it was matched with.  Of a resolution that returns the answer is told in full, and of one
that fails at a cycle the cycle and nothing else of an answer.  If every range has a text, it does
one or the other; and else a reject may be left that cannot be told of, at which the log breaks
off. -/
theorem told_of_resolve (c : Config) (catalog : Catalog) :
    logOf matchingNames (catalog.buildGraph c).journal = catalog.matchings c ∧
      logOf matchingNames (catalog.resolve c).journal = catalog.matchings c ∧
      ((∃ r, (catalog.resolve c).answer = .ok r ∧ TellsReturn c catalog r (catalog.resolve c)) ∨
        (∃ ids, (catalog.resolve c).answer = .error (.walk (.cycle ids)) ∧
          TellsCycle ids (catalog.resolve c)) ∨
        ∃ r reject, (catalog.resolve c).result = .ok r ∧ ¬ catalog.Legible ∧
          (catalog.resolve c).answer = .error (.untold reject) ∧
          TellsUntold c catalog r reject (catalog.resolve c)) := by
  refine ⟨matchings_buildGraph c catalog, matchings_resolve c catalog, ?_⟩
  cases hsort : (catalog.buildGraph c).graph.sort with
  | ok w =>
      have hresult : (catalog.resolve c).result = .ok ((catalog.rebind c).collect w) := by
        rw [result_resolve, hsort]
      cases huntold : ((catalog.rebind c).collect w).untold? with
      | none =>
          have hanswer := Run.answer_eq_ok_iff.mpr ⟨hresult, huntold⟩
          exact .inl ⟨_, hanswer, tellsReturn hsort huntold⟩
      | some reject =>
          have hanswer := Run.answer_eq_untold_iff.mpr ⟨_, hresult, huntold⟩
          have hillegible : ¬ catalog.Legible := fun hlegible => by
            rw [untold?_of_legible hlegible hresult] at huntold
            cases huntold
          exact .inr (.inr ⟨_, reject, hresult, hillegible, hanswer, tellsUntold hsort huntold⟩)
  | error halt =>
      obtain ⟨ids, hfault, htells⟩ := exists_tellsCycle hsort
      have hresult : (catalog.resolve c).result = .error (.cycle ids) := by
        rw [result_resolve, hsort, ← hfault]
      exact .inr (.inl ⟨ids, Run.answer_eq_walk_iff.mpr hresult, htells⟩)

/-- The log of a resolution that binds four imports, refuses one, and rejects three plugins. -/
theorem told_of_resolve_stranded :
    logOf matchingNames (stranded.resolve .default).journal =
        [("build_graph.dependency_resolved", [("provider", .text "core"), ("importer", .text "c"),
            ("service", .text "s"), ("version", .text "1.0.0")]),
          ("build_graph.dependency_resolved", [("provider", .text "b"), ("importer", .text "c"),
            ("service", .text "s"), ("version", .text "2.0.0")]),
          ("build_graph.dependency_resolved", [("provider", .text "a"), ("importer", .text "b"),
            ("service", .text "s"), ("version", .text "1.1.0")]),
          ("build_graph.dependency_resolved", [("provider", .text "core"), ("importer", .text "a"),
            ("service", .text "s"), ("version", .text "1.0.0")]),
          ("build_graph.dependency_invalid", [("provider", .text "ghost"), ("importer", .text "a"),
            ("service", .text "s"), ("status", .text "REQUIRED_PLUGIN_NOT_FOUND")])] ∧
      ∃ r, (stranded.resolve .default).answer = .ok r ∧ r.rejected = ["c", "b", "a"] ∧
        TellsReturn .default stranded r (stranded.resolve .default) := by
  obtain ⟨-, hmatchings, hends⟩ := told_of_resolve .default stranded
  refine ⟨hmatchings, ?_⟩
  have hanswer : ∃ r, (stranded.resolve .default).answer = .ok r ∧ r.rejected = ["c", "b", "a"] :=
    ⟨_, rfl, rfl⟩
  obtain ⟨r, hr, hrejected⟩ := hanswer
  rcases hends with ⟨r', hr', htells⟩ | ⟨ids, hcycle, -⟩ | ⟨r', reject, -, -, huntold, -⟩
  · rw [hr] at hr'
    cases hr'
    exact ⟨r, hr, hrejected, htells⟩
  · rw [hr] at hcycle
    cases hcycle
  · rw [hr] at huntold
    cases huntold

end Catalog

end PluginOrder
