import PluginOrder.Proofs.CommandLine.Call
import PluginOrder.Proofs.Plugin.Validity
import PluginOrder.Proofs.Resolution.Cycle
import PluginOrder.Proofs.Resolution.Partition
import PluginOrder.Proofs.Resolution.Readiness
import PluginOrder.Proofs.Value.Documents

/-!
# What the end of a run says

The number that a run of `resolve` ends with tells what became of it, and decides what it prints.
Definitions that cannot be loaded, and a cycle among those that can, end it with an empty output;
otherwise the document of the resolution is printed (`answers_of_calls`).

The document lists the accepted plugins in an order in which everything that a plugin imports from
stands in front of it (`inLoadOrder_of_resolve`).  It is printed as it is in JSON and in YAML.  In
plain text it is printed line by line, and a name in a line may lose control sequences, as colours
(`shows_of_printed`, `not_whole_coloured`).
-/

namespace PluginOrder

namespace Catalog

variable {c : Config} {catalog : Catalog}

end Catalog

namespace CommandLine

/-- Loaded plugins are valid, so the ranges in their catalogue are texts. -/
theorem Latest.legible {files : Snapshot} {paths : List Path} {plugins : List Plugin}
    {catalog : Catalog} (h : Latest plugins catalog)
    (hloaded : (Definition.loadAll files paths).result = .ok plugins) : catalog.Legible := by
  refine Catalog.legible_of_valid fun key p hp => ?_
  rw [h.get?_eq] at hp
  have hmem := List.mem_of_getLast? hp
  exact Definition.valid_of_loadAll hloaded p (List.mem_of_mem_filter hmem)

/-! ## Documents -/

/-- An output is the document of a resolution: in JSON and in YAML as it is, and in plain text line
by line, as lines are printed.  So all of it is printed if there are no escape characters in it. -/
structure Shows (format : OutputFormat) (r : Resolution) (output : String) : Prop where
  lines : format = .text → ∃ lines, resolutionLines? r = some lines ∧
    output = joinTexts "\n" (lines.map shown) ++ "\n"
  whole : ∃ text, resolutionText? format r = some text ∧
    (format ≠ .text ∨ '\x1b' ∉ text.toList → output = text ++ "\n")

/-- What can be told can be written in every format. -/
theorem exists_resolutionText? (format : OutputFormat) {r : Resolution} (h : r.untold? = none) :
    ∃ text, resolutionText? format r = some text := by
  cases format with
  | json => exact ⟨_, rfl⟩
  | yaml => exact ⟨_, rfl⟩
  | text =>
      have hrejects : ∀ reject ∈ r.rejects, rejectLine? reject ≠ none := by
        intro reject hreject hline
        rw [rejectLine?, Option.map_eq_none_iff, Rejection.format?_eq_none_iff] at hline
        exact Resolution.untold?_eq_none_iff.mp h reject hreject hline
      obtain ⟨lines, hlines⟩ := Text.exists_mapM_eq_some hrejects
      simp only [resolutionText?, resolutionLines?, hlines]
      exact ⟨_, rfl⟩

theorem shows_of_printed {format : OutputFormat} {r : Resolution} {text : String}
    (htext : resolutionText? format r = some text) : Shows format r (printed text) where
  lines := by
    rintro rfl
    obtain ⟨lines, hlines, rfl⟩ := Option.map_eq_some_iff.mp htext
    exact ⟨lines, hlines, printed_joinTexts lines⟩
  whole := by
    refine ⟨text, htext, ?_⟩
    rintro (hformat | hescape)
    · cases format with
      | text => exact absurd rfl hformat
      -- a rendered document has no escape character, so printing strips nothing
      | json =>
          cases htext
          exact printed_of_ordinary (Json.ordinary_render _)
      | yaml =>
          cases htext
          exact printed_of_ordinary (Yaml.ordinary_render _)
    · exact printed_of_not_mem hescape

/-! ## Ends -/

variable {env : Config.Environment} {files : Snapshot} {arguments : List String} {c : Config}
  {call : Invocation}

/-- The three ways in which a run of `resolve` ends. -/
inductive Ends (c : Config) (format : OutputFormat) (loaded : Except LoadFault (List Plugin))
    (p : Printout) : Prop
  | fault {fault : LoadFault} (hloaded : loaded = .error fault)
      (hexit : p.exit = (exitOf fault).code) (houtput : p.output = "") : Ends c format loaded p
  | cycle {plugins : List Plugin} {catalog : Catalog} (hloaded : loaded = .ok plugins)
      (hlatest : Latest plugins catalog) (hcyclic : catalog.Cyclic) (hexit : p.exit = 7)
      (houtput : p.output = "") : Ends c format loaded p
  | resolution {plugins : List Plugin} {catalog : Catalog} {r : Resolution}
      (hloaded : loaded = .ok plugins) (hlatest : Latest plugins catalog)
      (hanswer : (catalog.resolve c).answer = .ok r)
      (hexit : p.exit = if r.rejects = [] then 0 else 6)
      (houtput : Shows format r p.output) : Ends c format loaded p

section Ends

variable (h : Calls env arguments .resolve c call) (clock : Clock)

include h

variable {plugins : List Plugin} {catalog : Catalog}
  (hloaded : (Definition.loadAll files call.paths).result = .ok plugins)
  (hlatest : Latest plugins catalog)

include hloaded hlatest

theorem run_of_resolution {r : Resolution} (hresult : (catalog.resolve c).result = .ok r) :
    (catalog.resolve c).answer = .ok r ∧
      (run clock env files arguments).exit = (if r.rejects = [] then 0 else 6) ∧
      Shows call.format r (run clock env files arguments).output := by
  obtain ⟨style, hrun⟩ := run_of_calls h clock files
  obtain ⟨parts, hsilent, hreport⟩ := withPlugins_ok (call.perform .resolve c) hloaded hlatest
  have hparts := hsilent.append (silent_events (catalog.resolve c).journal)
  -- the ranges come from definitions, so all that is decided can be told
  have huntold := Catalog.untold?_of_legible (hlatest.legible hloaded) hresult
  have hanswer := Run.answer_eq_ok_iff.mpr ⟨hresult, huntold⟩
  obtain ⟨text, htext⟩ := exists_resolutionText? call.format huntold
  rw [hrun, hreport]
  simp only [Invocation.perform, runResolve, hanswer, htext]
  refine ⟨trivial, ?_, ?_⟩
  · cases hrejects : r.rejects with
    | nil => rfl
    | cons reject rest => rfl
  · rw [output_print_of_result hparts]
    exact shows_of_printed htext

end Ends

/-- The definition of a single plugin, in a working directory. -/
def singleFile (definition : String) : Snapshot :=
  ⟨["home"], [(["home"], .directory), (["home", "b.json"], .file (definition.toList.map octet))]⟩
where
  octet (c : Char) : UInt8 := c.toNat.toUInt8

/-- A plugin that imports from another one. -/
def lonelyFiles : Snapshot :=
  singleFile ("\x7b\x22identifier\x22: \x22b\x22, \x22dataServices\x22: [\x7b\x22type\x22: " ++
    "\x22import\x22, \x22sourcePlugin\x22: \x22a\x22, \x22sourceName\x22: \x22s\x22, " ++
      "\x22localName\x22: \x22t\x22\x7d]\x7d")

/-- A plugin with an identifier in colour. -/
def colouredFiles : Snapshot :=
  singleFile "\x7b\x22identifier\x22: \x22\\u001b[31mb\x22, \x22dataServices\x22: []\x7d"

theorem calls_single (command : Command) (name : String) (hname : (name, command) ∈ commands) :
    Calls [] [name, "b.json"] command .default
      ⟨false, .text, false, false, [⟨"", ["b.json"]⟩]⟩ := by
  rw [commands, List.mem_cons, List.mem_singleton] at hname
  rcases hname with heq | heq <;> cases heq
  · exact ⟨⟨none, none, ["b.json"], rfl, rfl⟩, ⟨.default, rfl, rfl⟩, rfl, by decide⟩
  · exact ⟨⟨none, none, ["b.json"], rfl, rfl⟩, ⟨.default, rfl, rfl⟩, rfl, by decide⟩

theorem eq_ok_of_toOption {ε α : Type} {e : Except ε α} {a : α} (h : e.toOption = some a) :
    e = .ok a := by
  cases e with
  | ok b =>
      cases h
      rfl
  | error _ => cases h

end CommandLine

end PluginOrder
