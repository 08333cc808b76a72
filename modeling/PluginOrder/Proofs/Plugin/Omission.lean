import PluginOrder.Proofs.Plugin.Parsing

/-!
# Nulls in a definition

The version of a plugin, its data services, and the versions and ranges of its entries are optional,
and a null under one of these keys counts as nothing.  So the nulls can be taken out, any of them,
and the definition is read as before (`read_without`): what counts of an optional value is the same
with and without them (`present?_without`), and a definition is rebuilt from what counts.

One null does count.  The range of an import entry is looked for under `version` only if the entry
has no key `versionRange` at all, so a null there hides the version beside it, and the import asks
for any version.  Taking out that null uncovers the version (`read_lantern_uncovered`).
-/

namespace PluginOrder

namespace Value

/-- A map without the members under some keys. -/
def without (keys : List String) : Value → Value
  | .map members => .map (members.filter fun (key, _) => !keys.any key.isText)
  | v => v

/-- Null stands under keys that are optional. -/
def Vacant (optional keys : List String) (v : Value) : Prop :=
  ∀ key ∈ keys, key ∈ optional ∧ v.get? key = some .null

variable {v : Value} {keys optional : List String} {key : String}

theorem isMap_without : (v.without keys).IsMap ↔ v.IsMap := by
  cases v <;> exact Iff.rfl

theorem lookup?_filter (members : List (Value × Value)) :
    lookup? key (members.filter fun (key, _) => !keys.any key.isText) =
      if key ∈ keys then none else lookup? key members := by
  induction members with
  | nil => simp [lookup?]
  | cons member rest ih =>
      obtain ⟨name, value⟩ := member
      cases name with
      | text k =>
          have hany : keys.any (Value.text k).isText = true ↔ k ∈ keys := by
            simp [Value.isText]
          by_cases hk : k ∈ keys
          · -- the member goes, and if it was the one in question then so do all others like it
            rw [List.filter_cons_of_neg (by simp [hany.mpr hk]), ih, lookup?]
            by_cases hkey : k = key
            · rw [if_pos (hkey ▸ hk), if_pos (hkey ▸ hk)]
            · rw [if_neg hkey]
          · have hnot : ¬ keys.any (Value.text k).isText = true := fun h => hk (hany.mp h)
            rw [List.filter_cons_of_pos (by simpa using hnot), lookup?, ih, lookup?]
            by_cases hkey : k = key
            · rw [if_pos hkey, if_pos hkey, if_neg (hkey ▸ hk)]
            · rw [if_neg hkey, if_neg hkey]
      | _ =>
          rw [List.filter_cons_of_pos (by simp [Value.isText]), lookup?, ih, lookup?]
          all_goals simp

theorem get?_without : (v.without keys).get? key = if key ∈ keys then none else v.get? key := by
  cases v with
  | map members => exact lookup?_filter members
  | _ => exact (ite_self none).symm

end Value

namespace Definition

variable {v entry : Value} {entries : List Value} {keys optional : List String}

/-! ## Entries -/

/-- What counts of an optional value is the same without nulls. -/
theorem present?_without (h : v.Vacant optional keys) (key : String) :
    present? ((v.without keys).get? key) = present? (v.get? key) := by
  rw [Value.get?_without]
  split
  · rename_i hkey
    rw [(h key hkey).2]
    rfl
  · rfl

theorem get?_without_of_not_mem {key : String} (h : v.Vacant optional keys)
    (hkey : key ∉ optional) :
    (v.without keys).get? key = v.get? key := by
  rw [Value.get?_without, if_neg fun hmem => hkey (h key hmem).1]

/-- An import entry loses a null that hides a version. -/
def Uncovers (keys : List String) (entry : Value) : Prop :=
  IsImport entry ∧ "versionRange" ∈ keys ∧ present? (entry.get? "version") ≠ none

theorem range?_without (h : entry.Vacant ["version", "versionRange"] keys)
    (himport : IsImport entry)
    (hcovered : ¬Uncovers keys entry) : range? (entry.without keys) = range? entry := by
  have hget : (entry.without keys).get? "versionRange" =
      if "versionRange" ∈ keys then none else entry.get? "versionRange" := Value.get?_without
  rw [range?, range?, hget]
  by_cases hkey : "versionRange" ∈ keys
  · -- the null that is left out would let the version through; the entry has none
    have hversion : present? (entry.get? "version") = none := by
      by_contra hpresent
      exact hcovered ⟨himport, hkey, hpresent⟩
    rw [if_pos hkey, (h _ hkey).2]
    show present? ((entry.without keys).get? "version") = present? (some .null)
    rw [present?_without h, hversion]
    rfl
  · rw [if_neg hkey]
    cases entry.get? "versionRange" with
    | none => exact present?_without h "version"
    | some range => rfl

/-- An entry without nulls is rebuilt as it was, unless it loses a null that hides a version. -/
theorem sameEntry_without (h : entry.Vacant ["version", "versionRange"] keys)
    (hcovered : ¬Uncovers keys entry) : SameEntry entry (entry.without keys) where
  isMap := Value.isMap_without.symm
  type := (get?_without_of_not_mem h (by decide)).symm
  name := (get?_without_of_not_mem h (by decide)).symm
  version := (present?_without h "version").symm
  importing himport := by
    rw [importValue, importValue, range?_without h himport hcovered,
      get?_without_of_not_mem h (by decide), get?_without_of_not_mem h (by decide),
      get?_without_of_not_mem h (by decide)]

/-! ## Definitions -/

/-- The data services with other entries, if they are a list. -/
def servicesWith (entries : List Value) : Value → Value
  | .list _ => .list entries
  | v => v

/-- A definition with other entries, if it has a list of them. -/
def withEntries (entries : List Value) : Value → Value
  | .map members => .map (members.map fun (key, value) =>
      (key, if key.isText "dataServices" then servicesWith entries value else value))
  | v => v

/-- A definition without the members under some keys, its entries without those under some keys
each. -/
def without (keys : List String) (keysOf : Nat → List String) (v : Value) : Value :=
  (withEntries ((entriesOf v).mapIdx fun n entry => entry.without (keysOf n)) v).without keys

/-- Null stands under some optional keys of a definition and of its entries. -/
structure Vacant (keys : List String) (keysOf : Nat → List String) (v : Value) : Prop where
  own : v.Vacant ["pluginVersion", "dataServices"] keys
  entries : ∀ n (entry : Value), (entriesOf v)[n]? = some entry →
    entry.Vacant ["version", "versionRange"] (keysOf n)

variable {keysOf : Nat → List String}

theorem isMap_withEntries : (withEntries entries v).IsMap ↔ v.IsMap := by
  cases v <;> exact Iff.rfl

theorem get?_withEntries (key : String) :
    (withEntries entries v).get? key =
      if key = "dataServices" then (v.get? key).map (servicesWith entries) else v.get? key := by
  cases v with
  | map members =>
      simp only [withEntries, Value.get?]
      induction members with
      | nil => simp [Value.lookup?]
      | cons member rest ih =>
          obtain ⟨name, value⟩ := member
          cases name with
          | text k =>
              rw [List.map_cons, Value.lookup?, ih, Value.lookup?]
              by_cases hk : k = key
              · subst hk
                simp only [if_true, Value.isText, beq_iff_eq, Option.map_some]
                split <;> rfl
              · rw [if_neg hk, if_neg hk]
          | _ =>
              rw [List.map_cons, Value.lookup?, ih, Value.lookup?]
              all_goals simp
  | _ => simp [withEntries, Value.get?]

theorem Vacant.withEntries (h : Vacant keys keysOf v) (entries : List Value) :
    (withEntries entries v).Vacant ["pluginVersion", "dataServices"] keys := by
  intro key hkey
  obtain ⟨hoptional, hnull⟩ := h.own key hkey
  refine ⟨hoptional, ?_⟩
  rw [get?_withEntries, hnull]
  split <;> rfl

theorem sameServices_without (h : Vacant keys keysOf v)
    (hcovered : ∀ n entry, (entriesOf v)[n]? = some entry → ¬Uncovers (keysOf n) entry) :
    SameServices (dataServices (.ofValue v) v)
      (dataServices (.ofValue (without keys keysOf v)) (without keys keysOf v)) := by
  obtain ⟨entries', hentries'⟩ : ∃ entries',
      entries' = (entriesOf v).mapIdx fun n entry => entry.without (keysOf n) := ⟨_, rfl⟩
  -- the services are left out themselves, or their entries lose keys
  have hget : (without keys keysOf v).get? "dataServices" =
      if "dataServices" ∈ keys then none
      else (v.get? "dataServices").map (servicesWith entries') := by
    rw [without, Value.get?_without, get?_withEntries, if_pos rfl, hentries']
  by_cases hkey : "dataServices" ∈ keys
  · rw [if_pos hkey] at hget
    rw [dataServices, dataServices, hget, (h.own _ hkey).2]
    exact .refl _
  · rw [if_neg hkey] at hget
    cases hdata : v.get? "dataServices" with
    | none =>
        rw [dataServices, dataServices, hget, hdata]
        exact .refl _
    | some data =>
        rw [hdata] at hget
        cases data with
        | list entries =>
            have hentries : entriesOf v = entries := by rw [entriesOf, hdata]
            rw [dataServices_list hdata, dataServices_list hget, hentries', hentries]
            rw [hentries] at hcovered
            have hvacant := h.entries
            rw [hentries] at hvacant
            -- the entries stand in the same places, and each says the same without its keys
            refine .entries (List.forall₂_iff_get.mpr ⟨List.length_mapIdx.symm, fun n hn _ => ?_⟩)
            have hentry : entries[n]? = some entries[n] := List.getElem?_eq_getElem hn
            simpa using sameEntry_without (hvacant n _ hentry) (hcovered n _ hentry)
        | _ =>
            rw [dataServices, dataServices, hget, hdata]
            exact .refl _

theorem sameDefinition_without (h : Vacant keys keysOf v)
    (hcovered : ∀ n entry, (entriesOf v)[n]? = some entry → ¬Uncovers (keysOf n) entry) :
    SameDefinition v (without keys keysOf v) where
  isMap := (Value.isMap_without.trans isMap_withEntries).symm
  identifier := by
    rw [without, get?_without_of_not_mem (h.withEntries _) (by decide), get?_withEntries,
      if_neg (by decide)]
  pluginVersion := by
    rw [without, present?_without (h.withEntries _), get?_withEntries, if_neg (by decide)]
  dataServices := sameServices_without h hcovered

/-! ## What nulls count for -/

/-- **Nulls in a definition.**  Whatever nulls are taken out under optional keys of a definition and
of its entries, it is read as before, unless an import entry loses one that hides its version.
While it has that null, the import that it describes asks for any version. -/
theorem read_without (source : String) (v : Value) :
    (∀ keys keysOf, Vacant keys keysOf v →
        (∀ n entry, (entriesOf v)[n]? = some entry → ¬Uncovers (keysOf n) entry) →
        read source (.ofValue (without keys keysOf v)) = read source (.ofValue v)) ∧
      (v.IsPlain → ∀ p, (read source (.ofValue v)).result = .ok p →
        ∀ entry ∈ entriesOf v, IsImport entry → entry.get? "versionRange" = some .null →
          importOf entry ∈ p.imports ∧ (importOf entry).versionRange = .text "*") := by
  refine ⟨fun keys keysOf h hcovered => ?_, fun hplain p hp entry hentry himport hnull => ⟨?_, ?_⟩⟩
  · have hsame := described_congr (sameDefinition_without h hcovered)
    unfold read
    rw [hsame]
  · obtain ⟨-, rfl⟩ := (result_read_eq_ok source hplain).mp hp
    have hmem : entry ∈ (entriesOf v).filter IsImport :=
      List.mem_filter.mpr ⟨hentry, decide_eq_true himport⟩
    exact List.mem_map_of_mem hmem
  · have hrange : rangeOf entry = some .null := by rw [rangeOf, hnull, Option.some_or]
    rw [importOf, hrange]
    rfl

/-- A definition with nulls under every optional key, and with an import whose version is hidden. -/
def lantern : Value :=
  .object [("identifier", .text "lantern"), ("pluginVersion", .null), ("dataServices", .list [
    .object [("name", .text "light"), ("version", .null)],
    .object [("type", .text "import"), ("sourcePlugin", .text "oil"), ("sourceName", .text "lamp"),
      ("localName", .text "lamp"), ("versionRange", .text "^1.0.0"), ("version", .null)],
    .object [("type", .text "import"), ("sourcePlugin", .text "oil"), ("sourceName", .text "wick"),
      ("localName", .text "wick"), ("versionRange", .null), ("version", .text "^2.0.0")]])]

theorem isPlain_lantern : lantern.IsPlain := by
  have hnull : Value.null.IsPlain := ⟨.null, fun _ hpart => by cases hpart⟩
  refine .object ?_
  simp only [List.forall_mem_cons]
  refine ⟨.text, hnull, .list ?_, by simp⟩
  simp only [List.forall_mem_cons]
  refine ⟨.object ?_, .object ?_, .object ?_, by simp⟩
  · simp only [List.forall_mem_cons]
    exact ⟨.text, hnull, by simp⟩
  · simp only [List.forall_mem_cons]
    exact ⟨.text, .text, .text, .text, .text, hnull, by simp⟩
  · simp only [List.forall_mem_cons]
    exact ⟨.text, .text, .text, .text, hnull, .text, by simp⟩

/-- The definition without the nulls that hide nothing. -/
theorem read_without_lantern :
    without ["pluginVersion"] (fun n => if n ≤ 1 then ["version"] else []) lantern =
        .object [("identifier", .text "lantern"), ("dataServices", .list [
          .object [("name", .text "light")],
          .object [("type", .text "import"), ("sourcePlugin", .text "oil"),
            ("sourceName", .text "lamp"), ("localName", .text "lamp"),
            ("versionRange", .text "^1.0.0")],
          .object [("type", .text "import"), ("sourcePlugin", .text "oil"),
            ("sourceName", .text "wick"), ("localName", .text "wick"),
            ("versionRange", .null), ("version", .text "^2.0.0")]])] ∧
      read "a.json" (.ofValue (without ["pluginVersion"]
          (fun n => if n ≤ 1 then ["version"] else []) lantern)) =
        read "a.json" (.ofValue lantern) ∧
      ∃ p, (read "a.json" (.ofValue lantern)).result = .ok p ∧
        ⟨"oil", "wick", "wick", .text "*", none⟩ ∈ p.imports := by
  obtain ⟨hsame, hhidden⟩ := read_without "a.json" lantern
  refine ⟨rfl, hsame _ _ ⟨?_, ?_⟩ ?_, _, rfl, ?_⟩
  · exact List.forall_mem_singleton.mpr ⟨by decide, rfl⟩
  · intro n entry hentry
    rcases n with _ | _ | n
    · cases hentry
      exact List.forall_mem_singleton.mpr ⟨by decide, rfl⟩
    · cases hentry
      exact List.forall_mem_singleton.mpr ⟨by decide, rfl⟩
    · simp [Value.Vacant]
  · intro n entry _ huncovers
    have hkey := huncovers.2.1
    split at hkey <;> simp at hkey
  · obtain ⟨hmem, -⟩ := hhidden isPlain_lantern _ rfl _
      (List.mem_of_getElem? (i := 2) rfl) rfl rfl
    exact hmem

/-- An import entry that has lost a null requires the version that the null was hiding. -/
theorem read_lantern_uncovered :
    ∃ p p', (read "a.json" (.ofValue lantern)).result = .ok p ∧
      (read "a.json" (.ofValue (without [] (fun n => if n = 2 then ["versionRange"] else [])
        lantern))).result = .ok p' ∧
      p.imports = [⟨"oil", "lamp", "lamp", .text "^1.0.0", none⟩,
        ⟨"oil", "wick", "wick", .text "*", none⟩] ∧
      p'.imports = [⟨"oil", "lamp", "lamp", .text "^1.0.0", none⟩,
        ⟨"oil", "wick", "wick", .text "^2.0.0", none⟩] ∧ p ≠ p' := by
  refine ⟨_, _, rfl, rfl, rfl, rfl, ?_⟩
  intro h
  have himports := congrArg Plugin.imports h
  simp at himports

end Definition

end PluginOrder
