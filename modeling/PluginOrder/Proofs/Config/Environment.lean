import PluginOrder.Proofs.Plugin.Checking
import PluginOrder.Proofs.Resolution.Agreement

/-!
# What an environment sets

The variables of an environment become the entries of a document value, one for each variable that
is set, and this value is checked as a configuration.  Each flag of the configuration is that of its
own variable (`flags_of_ofEnvironment`), so environments that differ in other variables only match
versions in the same way (`agrees_of_ofEnvironment`).
-/

namespace PluginOrder

namespace Config

/-- The flag that an environment sets. -/
def flag (env : Environment) (setting : String) : Bool :=
  match setting? env setting with
  | some value => trueSpellings.contains (String.ofList (Text.lower value))
  | none => false

variable {env env' : Environment} {c c' : Config}

theorem setting?_congr {setting : String}
    (h : env.lookup (variableName setting) = env'.lookup (variableName setting)) :
    setting? env setting = setting? env' setting := by
  rw [setting?, setting?, h]

theorem flag_congr {setting : String}
    (h : env.lookup (variableName setting) = env'.lookup (variableName setting)) :
    flag env setting = flag env' setting := by
  rw [flag, flag, setting?_congr h]

/-- The entries of a document value, as they are looked up. -/
def textEntries (entries : List (String × Value)) : List (Value × Value) :=
  entries.map fun (key, value) => (.text key, value)

theorem lookup?_flagEntry (setting field key : String) (others : List (Value × Value)) :
    Value.lookup? key (textEntries (flagEntry env setting field) ++ others) =
      if field = key ∧ setting? env setting ≠ none then some (.bool (flag env setting))
      else Value.lookup? key others := by
  unfold flagEntry flag
  cases setting? env setting with
  | none => simp [textEntries]
  | some value => simp [textEntries, Value.lookup?]

theorem lookup?_levelEntry {key : String} (hkey : "log_level" ≠ key) :
    Value.lookup? key (textEntries (levelEntry env)) = none := by
  unfold levelEntry
  cases setting? env "LOG_LEVEL" with
  | none => rfl
  | some value => simp [textEntries, Value.lookup?, hkey]

/-- The entries that an environment comes to, flag by flag. -/
def entriesOf (env : Environment) : List (Value × Value) :=
  textEntries (flagEntry env "LOOSE_VERSIONS" "loose_versions") ++
    (textEntries (flagEntry env "INCLUDE_PRERELEASE" "include_prerelease") ++
      (textEntries (flagEntry env "JSON_LOGS" "json_logs") ++ textEntries (levelEntry env)))

theorem environmentValue_eq (env : Environment) : environmentValue env = .map (entriesOf env) := by
  simp only [environmentValue, Value.object, entriesOf, textEntries, List.map_append,
    List.append_assoc]

theorem checkField_flag {setting field : String} {entries : List (Value × Value)}
    (h : Value.lookup? field entries =
      if setting? env setting ≠ none then some (.bool (flag env setting)) else none) :
    checkField field (some false) checkFlag entries = .ok (flag env setting) := by
  rw [checkField, h]
  by_cases hsetting : setting? env setting = none
  · simp [hsetting, flag]
  · simp [hsetting, checkFlag, Checked.within]

/-- An environment sets the matching of versions by variables of its own. -/
theorem flags_of_ofEnvironment (h : ofEnvironment env = .ok c) :
    c.looseVersions = flag env "LOOSE_VERSIONS" ∧
      c.includePrerelease = flag env "INCLUDE_PRERELEASE" := by
  have hloose : checkField "loose_versions" (some false) checkFlag (entriesOf env) =
      .ok (flag env "LOOSE_VERSIONS") := by
    refine checkField_flag ?_
    simp [entriesOf, lookup?_flagEntry, lookup?_levelEntry]
  have hprerelease : checkField "include_prerelease" (some false) checkFlag (entriesOf env) =
      .ok (flag env "INCLUDE_PRERELEASE") := by
    refine checkField_flag ?_
    simp [entriesOf, lookup?_flagEntry, lookup?_levelEntry]
  rw [ofEnvironment, environmentValue_eq] at h
  have hfields := (checkModel_eq_ok.mp h).1
  simp only [Checked.ap_eq_ok, hloose, hprerelease, Except.ok.injEq] at hfields
  obtain ⟨_, _, ⟨_, _, ⟨_, _, ⟨_, _, rfl, rfl, rfl⟩, rfl, rfl⟩, _, rfl⟩, _, rfl⟩ := hfields
  exact ⟨rfl, rfl⟩

/-- Environments that differ in the settings of the log at most match versions in the same way. -/
theorem agrees_of_ofEnvironment (h : ofEnvironment env = .ok c) (h' : ofEnvironment env' = .ok c')
    (hother : ∀ name, name ≠ variableName "LOG_LEVEL" → name ≠ variableName "JSON_LOGS" →
      env.lookup name = env'.lookup name) : c.Agrees c' := by
  have hflags := flags_of_ofEnvironment h
  have hflags' := flags_of_ofEnvironment h'
  have hloose : flag env "LOOSE_VERSIONS" = flag env' "LOOSE_VERSIONS" :=
    flag_congr (hother _ (by decide) (by decide))
  have hprerelease : flag env "INCLUDE_PRERELEASE" = flag env' "INCLUDE_PRERELEASE" :=
    flag_congr (hother _ (by decide) (by decide))
  constructor
  · calc c.looseVersions = flag env "LOOSE_VERSIONS" := hflags.1
      _ = flag env' "LOOSE_VERSIONS" := hloose
      _ = c'.looseVersions := hflags'.1.symm
  · calc c.includePrerelease = flag env "INCLUDE_PRERELEASE" := hflags.2
      _ = flag env' "INCLUDE_PRERELEASE" := hprerelease
      _ = c'.includePrerelease := hflags'.2.symm

end Config

end PluginOrder
