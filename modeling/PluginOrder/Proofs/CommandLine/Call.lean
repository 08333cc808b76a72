import PluginOrder.CommandLine.Program
import PluginOrder.Proofs.Plugin.Registry
import PluginOrder.Proofs.Resolution.Agreement
import Mathlib.Data.List.FinRange

/-!
# Calls of a command

A run of the program calls a command if the options in front of the command, the environment and
the arguments of the command are all understood.  What the call then reports depends on the
configuration that the options and the environment make, and on the files (`run_of_calls`); the
settings of the log only concern how the report is printed.

Both commands begin in the same way.  They load definitions, and end there if that fails
(`withPlugins_error`).  Otherwise they go on with the catalogue in which of several plugins with one
identifier the last one counts (`withPlugins_ok`, `latest_register`).
-/

namespace PluginOrder.CommandLine

/-! ## What is called -/

/-- A configuration with the flags of a call added to it. -/
def Invocation.adjust (call : Invocation) (c : Config) : Config :=
  { c with
    looseVersions := c.looseVersions || call.loose
    includePrerelease := c.includePrerelease || call.includePrerelease }

/-- What a call does with the catalogue of the loaded plugins. -/
def Invocation.perform (call : Invocation) (command : Command) (c : Config) :
    List Part → Catalog → Report :=
  match command with
  | .resolve => runResolve c call.format
  | .graph => runGraph c

/-- Arguments call a command under an environment, and the configuration is the given one. -/
structure Calls (env : Config.Environment) (arguments : List String) (command : Command)
    (c : Config) (call : Invocation) : Prop where
  request : ∃ level json rest,
    readRequest arguments = .ok (.command command level json rest) ∧
      readInvocation command rest = .ok call
  environment : ∃ base, Config.ofEnvironment env = .ok base ∧ c = call.adjust base
  /-- More is asked for than the help text. -/
  help : call.help = false
  /-- The paths can be paths of files. -/
  paths : ∀ path ∈ call.paths, path.hasNull = false

variable {env : Config.Environment} {files : Snapshot} {arguments : List String}
  {command : Command} {c c' : Config} {call : Invocation}

theorem adjust_agrees (h : c.Agrees c') (call : Invocation) :
    (call.adjust c).Agrees (call.adjust c') where
  looseVersions := congrArg (· || call.loose) h.looseVersions
  includePrerelease := congrArg (· || call.includePrerelease) h.includePrerelease

theorem perform_eq (h : c.Agrees c') (call : Invocation) (command : Command) :
    call.perform command c = call.perform command c' := by
  funext parts catalog
  cases command with
  | resolve => simp only [Invocation.perform, runResolve, h.resolve_eq]
  | graph => simp only [Invocation.perform, runGraph, h.buildGraph_eq]

theorem runCommand_eq (c : Config) (files : Snapshot) (command : Command)
    (arguments : List String) :
    runCommand c files command arguments =
      match readInvocation command arguments with
      | .error fault => misused (some command) fault
      | .ok call =>
        if call.help then say (Scope.help (some command))
        else if let some path := call.paths.find? Path.hasNull then
          .failed [] .generalError (PathFault.message path .nullCharacter)
        else withPlugins files call.paths (call.perform command (call.adjust c)) := by
  cases command <;> rfl

theorem runCommand_congr (h : c.Agrees c') (files : Snapshot) (command : Command)
    (arguments : List String) :
    runCommand c files command arguments = runCommand c' files command arguments := by
  rw [runCommand_eq, runCommand_eq]
  cases readInvocation command arguments with
  | error fault => rfl
  | ok call => simp only [perform_eq (adjust_agrees h call)]

theorem run_of_request {level : Option Level} {json : Option Bool} {rest : List String}
    (hrequest : readRequest arguments = .ok (.command command level json rest))
    (hc : Config.ofEnvironment env = .ok c) (clock : Clock) (files : Snapshot) :
    ∃ style, run clock env files arguments = (runCommand c files command rest).print style := by
  have hagrees : Config.Agrees { c with
      logLevel := level.getD c.logLevel
      jsonLogs := json.getD c.jsonLogs } c := ⟨rfl, rfl⟩
  refine ⟨⟨json.getD c.jsonLogs, (level.getD c.logLevel).severity, clock⟩, ?_⟩
  rw [← runCommand_congr hagrees]
  simp only [run, hrequest, hc]

/-- **What a call comes to.** -/
theorem run_of_calls (h : Calls env arguments command c call) (clock : Clock) (files : Snapshot) :
    ∃ style, run clock env files arguments =
      (withPlugins files call.paths (call.perform command c)).print style := by
  obtain ⟨level, json, rest, hrequest, hcall⟩ := h.request
  obtain ⟨base, hbase, rfl⟩ := h.environment
  have hfind : call.paths.find? Path.hasNull = none :=
    List.find?_eq_none.mpr fun path hpath => Bool.eq_false_iff.mp (h.paths path hpath)
  have hcommand : runCommand base files command rest =
      withPlugins files call.paths (call.perform command (call.adjust base)) := by
    simp only [runCommand_eq, hcall, h.help, hfind, Bool.false_eq_true, if_false]
  rw [← hcommand]
  exact run_of_request hrequest hbase clock files

/-! ## What is printed -/

/-- Nothing of this goes to the standard output. -/
def Silent (parts : List Part) : Prop := ∀ part ∈ parts, Report.outputOf part = ""

theorem silent_events (events : List Event) : Silent (events.map .event) := by
  intro part hpart
  obtain ⟨event, _, rfl⟩ := List.mem_map.mp hpart
  rfl

theorem Silent.append {first second : List Part} (hfirst : Silent first) (hsecond : Silent second) :
    Silent (first ++ second) :=
  fun part hpart => (List.mem_append.mp hpart).elim (hfirst part) (hsecond part)

theorem silent_remark (text : String) : Silent [.remark text] := by
  intro part hpart
  rw [List.mem_singleton.mp hpart]
  rfl

theorem Silent.join_eq {parts : List Part} (h : Silent parts) :
    String.join (parts.map Report.outputOf) = "" := by
  induction parts with
  | nil => rfl
  | cons part rest ih =>
      have hrest := ih fun other hother => h other (List.mem_cons_of_mem _ hother)
      rw [List.map_cons, String.join_cons, h part List.mem_cons_self, hrest]
      rfl

/-- A report with a single result prints this result. -/
theorem output_print_of_result {parts : List Part} (h : Silent parts) (text : String)
    (exit : ExitCode) (style : LogStyle) :
    (Report.print style ⟨parts ++ [.result text], exit⟩).output = text := by
  simp only [Report.print, List.map_append, String.join_append, h.join_eq, List.map_cons,
    List.map_nil, String.join_cons, Report.outputOf]
  simp [String.join]

/-- The catalogue of some plugins: each identifier stands where it occurs first, and the plugin that
has it last counts. -/
structure Latest (plugins : List Plugin) (catalog : Catalog) : Prop where
  keys_eq : catalog.keys = (plugins.map (·.identifier)).eraseDups
  get?_eq : ∀ id, catalog.get? id = (plugins.filter fun p => p.identifier = id).getLast?

theorem Latest.unique {plugins : List Plugin} {catalog catalog' : Catalog}
    (h : Latest plugins catalog) (h' : Latest plugins catalog') : catalog = catalog' := by
  apply Ledger.ext_get?
  · rw [h.keys_eq, h'.keys_eq]
  · intro id
    rw [h.get?_eq, h'.get?_eq]

/-- Registering loaded plugins makes the catalogue in which the last ones count. -/
theorem latest_register (plugins : List Plugin) : Latest plugins (register plugins).1 := by
  -- the loaded plugins become the objects of a store, registered one by one with replacement
  let store : Store plugins.toArray.size := ⟨plugins.toArray, rfl⟩
  have hplugins : (List.finRange plugins.toArray.size).map store.get = plugins :=
    List.map_get_finRange plugins
  obtain ⟨r, ⟨journal, hregistered⟩, hkeys, hget⟩ :=
    Registry.registerAll_replacing store ∅ (List.finRange plugins.toArray.size)
  have hregister : (register plugins).1 = r.catalog store := by
    simp only [register]
    rw [hregistered]
  have hidentifiers : (List.finRange plugins.toArray.size).map store.identifier =
      plugins.map (·.identifier) := by
    conv => rhs; rw [← hplugins]
    rw [List.map_map]
    rfl
  rw [hregister]
  constructor
  · simp [Registry.catalog, hkeys, hidentifiers, List.removeAll]
  · intro id
    conv => rhs; rw [← hplugins]
    rw [Registry.catalog, Ledger.get?_mapValues, hget, Ledger.get?_emptyc, Option.or_none,
      List.filter_map, List.getLast?_map]
    rfl

variable {paths : List Path} (perform : List Part → Catalog → Report)

theorem withPlugins_ok {plugins : List Plugin} {catalog : Catalog}
    (h : (Definition.loadAll files paths).result = .ok plugins) (hlatest : Latest plugins catalog) :
    ∃ parts, Silent parts ∧ withPlugins files paths perform = perform parts catalog := by
  have hwarnings : Silent (if plugins.isEmpty then [.remark (emptyWarning paths)] else []) := by
    split
    · exact silent_remark _
    · exact fun part hpart => absurd hpart List.not_mem_nil
  refine ⟨_, ((silent_events (Definition.loadAll files paths).journal).append hwarnings).append
    (silent_events (register plugins).2), ?_⟩
  rw [hlatest.unique (latest_register plugins)]
  simp only [withPlugins, h]

end PluginOrder.CommandLine
