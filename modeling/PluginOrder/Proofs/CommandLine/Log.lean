import PluginOrder.Proofs.CommandLine.Call
import PluginOrder.Proofs.Config.Environment

/-!
# The log leaves the result alone

Two runs of one command that differ in the settings of the log at most print the same on the
standard output and end with the same number (`sameResult_of_differInLog`).  Three things are behind
it.  The environment sets the log and the matching of versions by different variables
(`agrees_of_ofEnvironment`).  A command reports the same whatever the settings of the log are
(`runCommand_congr`).  And a log is printed on the other output.

How the settings come from options in front of the command is said by `exists_readRequest`.
-/

namespace PluginOrder

namespace CommandLine

/-! ## Options in front of the command -/

/-- Options that concern the log and nothing else, with the levels that may be chosen. -/
inductive LogOptions : List String → Prop
  | none : LogOptions []
  | level {value : String} {rest : List String} (hvalue : choice? levelChoices value ≠ .none)
      (hrest : LogOptions rest) : LogOptions ("--log-level" :: value :: rest)
  | joinedLevel {value : String} {rest : List String} (hvalue : choice? levelChoices value ≠ .none)
      (hrest : LogOptions rest) : LogOptions (("--log-level=" ++ value) :: rest)
  | jsonLogs {rest : List String} (hrest : LogOptions rest) : LogOptions ("--json-logs" :: rest)
  | consoleLogs {rest : List String} (hrest : LogOptions rest) :
      LogOptions ("--console-logs" :: rest)

/-- An option that concerns the log and nothing else, as it is read. -/
def SetsLog (given : Given ProgramOption) : Prop :=
  (given.option = .logLevel ∧ choice? levelChoices given.value ≠ none) ∨
    given.option = .jsonLogs ∨ given.option = .consoleLogs

theorem readArgument_joinedLevel (value : String) :
    programGrammar.readArgument ("--log-level=" ++ value) =
      .ok (.options [⟨.logLevel, value⟩]) := by
  have hchars : ("--log-level=" ++ value).toList =
      '-' :: '-' :: 'l' :: ("og-level=".toList ++ value.toList) := by
    rw [String.toList_append]
    rfl
  have hoption : programGrammar.readOption
      ('-' :: '-' :: 'l' :: ("og-level=".toList ++ value.toList)) =
      .ok (.options [⟨.logLevel, String.ofList value.toList⟩]) := rfl
  rw [Grammar.readArgument, hchars]
  refine hoption.trans ?_
  rw [String.ofList_toList]

section Reading

variable {α : Type} {g : Grammar α} {argument : String} {rest operands : List String}
  {options : List (Given α)}

theorem read_operand (h : g.readArgument argument = .ok .operand) (hmixes : g.mixes = false) :
    g.read (argument :: rest) = .ok ⟨[], argument :: rest⟩ := by
  simp [Grammar.read, h, hmixes]

theorem read_options {given : List (Given α)} (h : g.readArgument argument = .ok (.options given))
    (hrest : g.read rest = .ok ⟨options, operands⟩) :
    g.read (argument :: rest) = .ok ⟨given ++ options, operands⟩ := by
  simp [Grammar.read, h, hrest, Except.map]

theorem read_awaitsValue {name value : String} {option : α}
    (h : g.readArgument argument = .ok (.awaitsValue name option))
    (hrest : g.read rest = .ok ⟨options, operands⟩) :
    g.read (argument :: value :: rest) = .ok ⟨⟨option, value⟩ :: options, operands⟩ := by
  simp [Grammar.read, h, hrest, Except.map]

end Reading

/-- Options of the log are read as such, and the name of the command ends them. -/
theorem read_logOptions {front : List String} (hfront : LogOptions front) {name : String}
    (hname : programGrammar.readArgument name = .ok .operand) (rest : List String) :
    ∃ options, programGrammar.read (front ++ name :: rest) = .ok ⟨options, name :: rest⟩ ∧
      ∀ given ∈ options, SetsLog given := by
  induction hfront with
  | none => exact ⟨[], read_operand hname rfl, fun given hgiven => absurd hgiven List.not_mem_nil⟩
  | level hvalue _ ih =>
      obtain ⟨options, hread, hsets⟩ := ih
      have hargument : programGrammar.readArgument "--log-level" =
          .ok (.awaitsValue "--log-level" .logLevel) := rfl
      exact ⟨_, read_awaitsValue hargument hread,
        List.forall_mem_cons.mpr ⟨.inl ⟨rfl, hvalue⟩, hsets⟩⟩
  | joinedLevel hvalue _ ih =>
      obtain ⟨options, hread, hsets⟩ := ih
      exact ⟨_, read_options (readArgument_joinedLevel _) hread,
        List.forall_mem_cons.mpr ⟨.inl ⟨rfl, hvalue⟩, hsets⟩⟩
  | jsonLogs _ ih =>
      obtain ⟨options, hread, hsets⟩ := ih
      have hargument : programGrammar.readArgument "--json-logs" =
          .ok (.options [⟨.jsonLogs, ""⟩]) := rfl
      exact ⟨_, read_options hargument hread,
        List.forall_mem_cons.mpr ⟨.inr (.inl rfl), hsets⟩⟩
  | consoleLogs _ ih =>
      obtain ⟨options, hread, hsets⟩ := ih
      have hargument : programGrammar.readArgument "--console-logs" =
          .ok (.options [⟨.consoleLogs, ""⟩]) := rfl
      exact ⟨_, read_options hargument hread,
        List.forall_mem_cons.mpr ⟨.inr (.inr rfl), hsets⟩⟩

theorem readArgument_command {name : String} {command : Command}
    (h : commands.lookup name = some command) :
    programGrammar.readArgument name = .ok .operand := by
  by_cases hgraph : name = "graph"
  · rw [hgraph]
    rfl
  by_cases hresolve : name = "resolve"
  · rw [hresolve]
    rfl
  have hnone : commands.lookup name = none := by
    simp [commands, List.lookup_cons, beq_eq_false_iff_ne.mpr hgraph,
      beq_eq_false_iff_ne.mpr hresolve]
  rw [hnone] at h
  cases h

theorem eagerRequest?_of_setsLog {options : List (Given ProgramOption)} {operands : List String}
    (h : ∀ given ∈ options, SetsLog given) : eagerRequest? ⟨options, operands⟩ = none := by
  have hfind : options.find? (fun given => [.version, .help].contains given.option) = none := by
    refine List.find?_eq_none.mpr fun given hgiven => ?_
    rcases h given hgiven with ⟨hoption, _⟩ | hoption | hoption <;> rw [hoption] <;> decide
  rw [eagerRequest?, Arguments.first?, hfind]
  rfl

theorem exists_level {options : List (Given ProgramOption)}
    (h : ∀ given ∈ options, SetsLog given) (operands : List String) :
    ∃ level, chosen "--log-level" levelChoices (Arguments.value? ⟨options, operands⟩ .logLevel) =
      .ok level := by
  unfold Arguments.value?
  cases hfind : options.reverse.find? fun given => given.option = .logLevel with
  | none => exact ⟨none, rfl⟩
  | some given =>
      have hoption : given.option = .logLevel := by simpa using List.find?_some hfind
      have hsets := h given (List.mem_reverse.mp (List.mem_of_find?_eq_some hfind))
      simp only [SetsLog, hoption, true_and, reduceCtorEq, or_false] at hsets
      obtain ⟨level, hlevel⟩ := Option.ne_none_iff_exists'.mp hsets
      exact ⟨some level, by simp [chosen, hlevel]⟩

/-- Every command can be called with options of the log in front of it. -/
theorem exists_readRequest {front : List String} (hfront : LogOptions front) {name : String}
    {command : Command} (hcommand : commands.lookup name = some command) (rest : List String) :
    ∃ level json,
      readRequest (front ++ name :: rest) = .ok (.command command level json rest) := by
  obtain ⟨options, hread, hsets⟩ := read_logOptions hfront (readArgument_command hcommand) rest
  obtain ⟨level, hlevel⟩ := exists_level hsets (name :: rest)
  have hoptions : readOptions (front ++ name :: rest) =
      .ok (⟨options, name :: rest⟩, level, none) := by
    simp only [readOptions, hread, eagerRequest?_of_setsLog hsets, hlevel]
    simp
  refine ⟨level, (Arguments.last? ⟨options, name :: rest⟩ [.jsonLogs, .consoleLogs]).map
    (· == .jsonLogs), ?_⟩
  simp only [readRequest, hoptions, hcommand]

/-! ## Runs -/

/-- Two runs call one command with the same arguments, and differ in the settings of the log at
most: in the options in front of the command, and in the variables of the environment. -/
structure DifferInLog (env env' : Config.Environment) (arguments arguments' : List String) :
    Prop where
  request : ∃ command level level' json json' rest,
    readRequest arguments = .ok (.command command level json rest) ∧
      readRequest arguments' = .ok (.command command level' json' rest)
  valid : ∃ c, Config.ofEnvironment env = .ok c
  valid' : ∃ c, Config.ofEnvironment env' = .ok c
  other : ∀ name, name ≠ Config.variableName "LOG_LEVEL" → name ≠ Config.variableName "JSON_LOGS" →
    env.lookup name = env'.lookup name

variable {env env' : Config.Environment} {arguments arguments' : List String}

/-- Options of the log in front of the same command make such runs. -/
theorem differInLog_of_logOptions {front front' : List String} (hfront : LogOptions front)
    (hfront' : LogOptions front') {name : String} {command : Command}
    (hcommand : commands.lookup name = some command) (rest : List String)
    {c c' : Config} (hvalid : Config.ofEnvironment env = .ok c)
    (hvalid' : Config.ofEnvironment env' = .ok c')
    (hother : ∀ name, name ≠ Config.variableName "LOG_LEVEL" →
      name ≠ Config.variableName "JSON_LOGS" → env.lookup name = env'.lookup name) :
    DifferInLog env env' (front ++ name :: rest) (front' ++ name :: rest) := by
  obtain ⟨level, json, hrequest⟩ := exists_readRequest hfront hcommand rest
  obtain ⟨level', json', hrequest'⟩ := exists_readRequest hfront' hcommand rest
  exact ⟨⟨command, level, level', json, json', rest, hrequest, hrequest'⟩, ⟨c, hvalid⟩,
    ⟨c', hvalid'⟩, hother⟩

/-- **The log leaves the result alone.** -/
theorem sameResult_of_differInLog (h : DifferInLog env env' arguments arguments')
    (clock clock' : Clock) (files : Snapshot) :
    (run clock env files arguments).output = (run clock' env' files arguments').output ∧
      (run clock env files arguments).exit = (run clock' env' files arguments').exit := by
  obtain ⟨command, _, _, _, _, rest, hrequest, hrequest'⟩ := h.request
  obtain ⟨c, hc⟩ := h.valid
  obtain ⟨c', hc'⟩ := h.valid'
  obtain ⟨style, hrun⟩ := run_of_request hrequest hc clock files
  obtain ⟨style', hrun'⟩ := run_of_request hrequest' hc' clock' files
  have hagrees : c.Agrees c' := Config.agrees_of_ofEnvironment hc hc' h.other
  rw [hrun, hrun', runCommand_congr hagrees files command rest]
  exact ⟨rfl, rfl⟩

/-- A directory with the definition of a shelf, which imports from a wall that is not there. -/
def shelfFiles : Snapshot where
  workingDirectory := ["home"]
  entries := [
    (["home"], .directory),
    (["home", "shelf.json"],
      .file ("\x7b\x22identifier\x22: \x22shelf\x22, \x22dataServices\x22: " ++
        "[\x7b\x22type\x22: \x22import\x22, \x22sourcePlugin\x22: \x22wall\x22, " ++
        "\x22sourceName\x22: \x22hook\x22, \x22localName\x22: " ++
        "\x22hook\x22\x7d]\x7d").toUTF8.toList)]

/-- What a talkative run prints. -/
def talkative : Printout :=
  run ⟨"2024-05-01T12:00:00Z", .int 0⟩
    [("TESSERA_LOG_LEVEL", "info"), ("TESSERA_LOOSE_VERSIONS", "yes")] shelfFiles
    ["--log-level", "Debug", "--json-logs", "resolve", "shelf.json"]

/-- What a quiet run prints. -/
def quiet : Printout :=
  run ⟨"2024-05-01T12:00:01Z", .int 1⟩
    [("TESSERA_LOOSE_VERSIONS", "yes"), ("TESSERA_JSON_LOGS", "1")] shelfFiles
    ["--console-logs", "--log-level", "critical", "resolve", "shelf.json"]

/-- One run tells of everything and the other of nothing, and both reject the shelf in the same
words. -/
theorem sameResult_talkative_quiet :
    DifferInLog [("TESSERA_LOG_LEVEL", "info"), ("TESSERA_LOOSE_VERSIONS", "yes")]
        [("TESSERA_LOOSE_VERSIONS", "yes"), ("TESSERA_JSON_LOGS", "1")]
        ["--log-level", "Debug", "--json-logs", "resolve", "shelf.json"]
        ["--console-logs", "--log-level", "critical", "resolve", "shelf.json"] ∧
      talkative.output = quiet.output ∧ talkative.exit = quiet.exit ∧
      talkative.errors ≠ quiet.errors ∧ quiet.exit = 6 ∧
      quiet.output = "Load order:\n  (none)\n\nRejected:\n  shelf: Required plugin not found: " ++
        "pluginId: wall\n" := by
  have hdebug : LogOptions ["--log-level", "Debug", "--json-logs"] :=
    .level (by decide) (.jsonLogs .none)
  have hcritical : LogOptions ["--console-logs", "--log-level", "critical"] :=
    .consoleLogs (.level (by decide) .none)
  have hcommand : commands.lookup "resolve" = some .resolve := rfl
  have hvalid : Config.ofEnvironment
      [("TESSERA_LOG_LEVEL", "info"), ("TESSERA_LOOSE_VERSIONS", "yes")] =
      .ok ⟨true, false, .info, false⟩ := by decide +kernel
  have hvalid' : Config.ofEnvironment
      [("TESSERA_LOOSE_VERSIONS", "yes"), ("TESSERA_JSON_LOGS", "1")] =
      .ok ⟨true, false, .warning, true⟩ := by decide +kernel
  have hdiffer := differInLog_of_logOptions hdebug hcritical hcommand ["shelf.json"] hvalid hvalid'
    fun name hlevel hjson => by
      have hlevel' : (name == "TESSERA_LOG_LEVEL") = false := beq_eq_false_iff_ne.mpr hlevel
      have hjson' : (name == "TESSERA_JSON_LOGS") = false := beq_eq_false_iff_ne.mpr hjson
      simp [List.lookup_cons, hlevel', hjson']
  obtain ⟨houtput, hexit⟩ := sameResult_of_differInLog hdiffer ⟨"2024-05-01T12:00:00Z", .int 0⟩
    ⟨"2024-05-01T12:00:01Z", .int 1⟩ shelfFiles
  exact ⟨hdiffer, houtput, hexit, by decide +kernel, by decide +kernel, by decide +kernel⟩

end CommandLine

end PluginOrder
