import PluginOrder.Plugin.Loading
import PluginOrder.Proofs.Plugin.Grammar
import PluginOrder.Proofs.Plugin.Refusal

/-!
# Which definitions are accepted

A definition in JSON is accepted exactly if it is in the grammar, and then as the plugin that it
describes (`loaded_iff_grammar`).

The checks of the rebuilt value are taken back to the definition itself, an import and a service at
a time: each check succeeds exactly if the entry is in the grammar of its kind, with the import or
the service that the entry describes (`check_importValue`, `check_listedValue`).  That other keys
have no influence needs no grammar: definitions that are alike are rebuilt as the same value, if
they are rebuilt at all (`described_congr`).
-/

namespace PluginOrder

namespace Definition

variable {root v w entry : Value} {entries : List Value}

/-! ## The checks -/

theorem checkNonempty_eq_ok (h : v.IsPlain) {s : String} :
    checkNonempty v = .ok s ↔ s ≠ "" ∧ v = .text s := by
  cases v with
  | text t =>
      by_cases ht : t = ""
      · simp [checkNonempty, checkText, Checked.fail, ht]
      · simp [checkNonempty, checkText, ht]
        grind
  | octets bytes => cases h.isJson
  | _ => simp [checkNonempty, checkText, Checked.fail]

/-- A required text of a rebuilt document is the text of the original one. -/
theorem checkField_eq_textAt {name key s : String} {fields : List (String × Value)} (h : v.IsPlain)
    (hlookup : fields.lookup name = v.get? key) :
    checkField name none checkNonempty (fields.map fun (k, value) => (.text k, value)) = .ok s ↔
      v.HasText key ∧ s = v.textAt key := by
  rw [checkField_eq_ok, Value.lookup?_object, hlookup]
  cases hkey : v.get? key with
  | none => simp [Value.HasText, hkey]
  | some w =>
      have hw := h.part (Value.part_of_get? hkey)
      simp only [checkNonempty_eq_ok hw, Value.HasText, Value.textAt, hkey, Option.some.injEq]
      constructor
      · rintro ⟨hne, rfl⟩
        exact ⟨⟨s, hne, rfl⟩, rfl⟩
      · rintro ⟨⟨t, hne, rfl⟩, rfl⟩
        exact ⟨hne, rfl⟩

theorem unknownKeys_object {known : List String} {fields : List (String × Value)}
    (h : ∀ field ∈ fields, field.1 ∈ known) :
    unknownKeys known (fields.map fun (k, value) => (.text k, value)) = [] := by
  rw [unknownKeys, List.filterMap_map, List.filterMap_eq_nil_iff]
  intro field hfield
  simp [h field hfield]

theorem range?_eq (entry : Value) : range? entry = present? (rangeOf entry) := by
  unfold range? rangeOf
  cases entry.get? "versionRange" <;> rfl

theorem checkField_range (h : entry.IsPlain) {fields : List (String × Value)} {r : Value}
    (hlookup : fields.lookup "version_range" = range? entry) :
    (∃ s, checkField "version_range" (some "*") checkText
        (fields.map fun (k, value) => (.text k, value)) = .ok s ∧ r = .text s) ↔
      (rangeOf entry = none ∨ rangeOf entry = some .null ∨ ∃ s, rangeOf entry = some (.text s)) ∧
        r = (present? (rangeOf entry)).getD (.text "*") := by
  simp only [checkField_eq_ok, Value.lookup?_object, hlookup, range?_eq]
  cases hrange : rangeOf entry with
  | none => simp [present?]
  | some given =>
      have hgiven : given.IsPlain := by
        rcases Option.or_eq_some_iff.mp hrange with hkey | ⟨-, hkey⟩
        · exact h.part (Value.part_of_get? hkey)
        · exact h.part (Value.part_of_get? hkey)
      cases given with
      | null => simp [present?]
      | text t => simp [present?, checkText]
      | octets bytes => cases hgiven.isJson
      | _ => simp [present?, checkText, Checked.fail]

/-- A text that was written into the rebuilt document is read from it. -/
theorem checkField_written {name default s : String} {fields : List (String × Value)}
    {written : Option String} (hlookup : fields.lookup name = written.map .text) :
    checkField name (some default) checkText
        (fields.map fun (k, value) => (.text k, value)) = .ok s ↔ s = written.getD default := by
  rw [checkField_eq_ok, Value.lookup?_object, hlookup]
  cases written <;> simp [checkText, eq_comm]

theorem checkField_written? {name : String} {s : Option String} {fields : List (String × Value)}
    {written : Option String} (hlookup : fields.lookup name = written.map .text) :
    checkField name (some none) checkText?
        (fields.map fun (k, value) => (.text k, value)) = .ok s ↔ s = written := by
  rw [checkField_eq_ok, Value.lookup?_object, hlookup]
  cases written <;> simp [checkText?, checkText, Except.map, eq_comm]

theorem lookup_optionalEntry (name key : String) (value? : Option Value) :
    (optionalEntry name value?).lookup key = if key = name then value? else none := by
  cases value? with
  | none => simp [optionalEntry]
  | some value =>
      by_cases hkey : key = name
      · simp [optionalEntry, hkey]
      · have hbeq : (key == name) = false := beq_eq_false_iff_ne.mpr hkey
        simp [optionalEntry, List.lookup_cons, hkey, hbeq]

theorem eq_of_mem_optionalEntry {name : String} {value? : Option Value} {field : String × Value}
    (h : field ∈ optionalEntry name value?) : field.1 = name := by
  cases value? with
  | none => cases h
  | some value => rw [List.mem_singleton.mp h]

theorem check_importValue (h : entry.IsPlain) {i : Import} :
    Import.check (importValue entry) = .ok i ↔ ImportGrammar entry ∧ i = importOf entry := by
  obtain ⟨fields, hfields⟩ : ∃ fields, fields =
      optionalEntry "source_plugin" (entry.get? "sourcePlugin") ++
        optionalEntry "source_name" (entry.get? "sourceName") ++
        optionalEntry "local_name" (entry.get? "localName") ++
        optionalEntry "version_range" (range? entry) := ⟨_, rfl⟩
  -- every field that is written is one that an import has, so none is unknown
  have hknown : ∀ field ∈ fields, field.1 ∈
      ["source_plugin", "source_name", "local_name", "version_range", "target_service"] := by
    simp only [hfields, List.mem_append]
    rintro field (((hfield | hfield) | hfield) | hfield) <;>
      simp [eq_of_mem_optionalEntry hfield]
  -- each of them is written at most once, so it is found under its name
  have hplugin : fields.lookup "source_plugin" = entry.get? "sourcePlugin" := by
    simp [hfields, List.lookup_append, lookup_optionalEntry]
  have hname : fields.lookup "source_name" = entry.get? "sourceName" := by
    simp [hfields, List.lookup_append, lookup_optionalEntry]
  have hlocal : fields.lookup "local_name" = entry.get? "localName" := by
    simp [hfields, List.lookup_append, lookup_optionalEntry]
  have hrange : fields.lookup "version_range" = range? entry := by
    simp [hfields, List.lookup_append, lookup_optionalEntry]
  have htarget : fields.lookup "target_service" = none := by
    simp [hfields, List.lookup_append, lookup_optionalEntry]
  rw [importValue, ← hfields, Value.object, Import.check_eq_ok, checkField_eq_textAt h hplugin,
    checkField_eq_textAt h hname, checkField_eq_textAt h hlocal, checkField_eq_ok,
    Value.lookup?_object, htarget]
  simp only [checkField_range h hrange, unknownKeys_object hknown, true_and]
  constructor
  · rintro ⟨⟨hplugin, hplugin'⟩, ⟨hname, hname'⟩, ⟨hlocal, hlocal'⟩, ⟨hrange, hrange'⟩, htarget⟩
    refine ⟨⟨hplugin, hname, hlocal, hrange⟩, ?_⟩
    obtain ⟨_, _, _, _, _⟩ := i
    simp_all [importOf]
  · rintro ⟨hgrammar, rfl⟩
    exact ⟨⟨hgrammar.sourcePlugin, rfl⟩, ⟨hgrammar.sourceName, rfl⟩, ⟨hgrammar.localName, rfl⟩,
      ⟨hgrammar.range, rfl⟩, rfl⟩

theorem check_reexportValue (h : entry.IsPlain) (himport : IsImport entry)
    (hlisted : IsListed entry) {service : Service} :
    Service.check (listedValue entry) = .ok service ↔
      entry.HasText "name" ∧ service = serviceOf entry := by
  obtain ⟨fields, hfields⟩ : ∃ fields, fields = [("name", (entry.get? "name").getD .null),
      ("kind", .text ServiceKind.reexport.name), ("type", .text importType)] := ⟨_, rfl⟩
  have hknown : ∀ field ∈ fields, field.1 ∈ ["name", "version", "kind", "type"] := by
    simp [hfields]
  -- a re-export has a name, and no version
  have hname : fields.lookup "name" = entry.get? "name" := by
    obtain ⟨name, hname⟩ := Option.isSome_iff_exists.mp (hlisted.resolve_left (absurd himport))
    simp [hfields, hname]
  have hversion : fields.lookup "version" = (none : Option String).map .text := by
    simp [hfields, List.lookup_cons]
  have hkind : fields.lookup "kind" = some (.text ServiceKind.reexport.name) := by
    simp [hfields, List.lookup_cons]
  have htype : fields.lookup "type" = (some importType).map .text := by
    simp [hfields, List.lookup_cons]
  have htypeOf : typeOf entry = some importType := himport
  rw [listedValue, if_pos himport, ← hfields, Value.object, Service.check_eq_ok,
    unknownKeys_object hknown, checkField_eq_textAt h hname, checkField_written hversion,
    checkField_written htype, checkField_eq_ok, Value.lookup?_object, hkind]
  obtain ⟨_, _, kind, _⟩ := service
  simp [serviceOf, himport, htypeOf, checkKind, ServiceKind.ofName?, ServiceKind.name, and_assoc,
    eq_comm (a := kind)]

theorem check_serviceValue (h : entry.IsPlain) (himport : ¬IsImport entry) {service : Service} :
    Service.check (listedValue entry) = .ok service ↔
      entry.HasText "name" ∧ service = serviceOf entry := by
  obtain ⟨type, htypeOf, -⟩ := text_type entry h
  obtain ⟨fields, hfields⟩ : ∃ fields, fields =
      ("type", .text ((typeOf entry).getD "")) :: optionalEntry "name" (entry.get? "name") ++
        optionalEntry "version" (((present? (entry.get? "version")).bind rendered).map .text) :=
    ⟨_, rfl⟩
  have hknown : ∀ field ∈ fields, field.1 ∈ ["name", "version", "kind", "type"] := by
    simp only [hfields, List.cons_append, List.mem_cons, List.mem_append]
    rintro field (rfl | hfield | hfield)
    · simp
    · simp [eq_of_mem_optionalEntry hfield]
    · simp [eq_of_mem_optionalEntry hfield]
  have hname : fields.lookup "name" = entry.get? "name" := by
    simp [hfields, List.lookup_cons, List.lookup_append, lookup_optionalEntry]
  have hversion : fields.lookup "version" =
      ((present? (entry.get? "version")).bind rendered).map .text := by
    simp [hfields, List.lookup_cons, List.lookup_append, lookup_optionalEntry]
  have hkind : fields.lookup "kind" = none := by
    simp [hfields, List.lookup_cons, List.lookup_append, lookup_optionalEntry]
  have htype : fields.lookup "type" = (some type).map .text := by
    simp [hfields, htypeOf]
  rw [listedValue, if_neg himport, ← hfields, Value.object, Service.check_eq_ok,
    unknownKeys_object hknown, checkField_eq_textAt h hname, checkField_written hversion,
    checkField_written htype, checkField_eq_ok, Value.lookup?_object, hkind]
  obtain ⟨_, _, kind, _⟩ := service
  simp [serviceOf, himport, htypeOf, and_assoc, eq_comm (a := kind)]

theorem check_listedValue (h : entry.IsPlain) (hlisted : IsListed entry) {service : Service} :
    Service.check (listedValue entry) = .ok service ↔
      entry.HasText "name" ∧ service = serviceOf entry := by
  by_cases himport : IsImport entry
  · exact check_reexportValue h himport hlisted
  · exact check_serviceValue h himport

/-- The entries of one kind are checked one by one. -/
theorem checkList_filter_eq_ok {α : Type} {check : Value → Checked α} {value : Value → Value}
    {p : Value → Prop} {result : Value → α} (kind : Value → Prop) [DecidablePred kind]
    (h : ∀ entry ∈ entries, kind entry →
      ∀ a, check (value entry) = .ok a ↔ p entry ∧ a = result entry)
    (results : List α) :
    checkList check (.list ((entries.filter kind).map value)) = .ok results ↔
      (∀ entry ∈ entries, kind entry → p entry) ∧ results = (entries.filter kind).map result := by
  rw [checkList, checkItems_eq_ok, List.forall₂_map_left_iff]
  induction entries generalizing results with
  | nil => simp
  | cons entry rest ih =>
      obtain ⟨hentry, hrest⟩ := List.forall_mem_cons.mp h
      by_cases hkind : kind entry
      · simp only [hkind, decide_true, List.filter_cons_of_pos, List.forall₂_cons_left_iff,
          hentry hkind, ih hrest, List.forall_mem_cons, List.map_cons, true_imp_iff]
        constructor
        · rintro ⟨_, _, ⟨hp, rfl⟩, ⟨hall, rfl⟩, rfl⟩
          exact ⟨⟨hp, hall⟩, rfl⟩
        · rintro ⟨⟨hp, hall⟩, rfl⟩
          exact ⟨_, _, ⟨hp, rfl⟩, ⟨hall, rfl⟩, rfl⟩
      · simp [hkind, ih hrest]

theorem check_describedValue (h : v.IsPlain) {p : Plugin} :
    Plugin.check (describedValue v) = .ok p ↔
      (v.HasText "identifier" ∧ (∀ entry ∈ entriesOf v, IsListed entry → entry.HasText "name") ∧
        ∀ entry ∈ entriesOf v, IsImport entry → ImportGrammar entry) ∧ p = pluginOf v := by
  obtain ⟨fields, hfields⟩ : ∃ fields, fields =
      [("services", .list (((entriesOf v).filter IsListed).map listedValue)),
        ("imports", .list (((entriesOf v).filter IsImport).map importValue))] ++
      optionalEntry "identifier" (v.get? "identifier") ++
      optionalEntry "plugin_version"
        (((present? (v.get? "pluginVersion")).bind rendered).map .text) := ⟨_, rfl⟩
  have hknown : ∀ field ∈ fields,
      field.1 ∈ ["identifier", "plugin_version", "services", "imports"] := by
    simp only [hfields, List.mem_append, List.mem_cons, List.not_mem_nil, or_false]
    rintro field (((rfl | rfl) | hfield) | hfield)
    · simp
    · simp
    · simp [eq_of_mem_optionalEntry hfield]
    · simp [eq_of_mem_optionalEntry hfield]
  have hidentifier : fields.lookup "identifier" = v.get? "identifier" := by
    simp [hfields, List.lookup_cons, List.lookup_append, lookup_optionalEntry]
  have hversion : fields.lookup "plugin_version" =
      ((present? (v.get? "pluginVersion")).bind rendered).map .text := by
    simp [hfields, List.lookup_cons, List.lookup_append, lookup_optionalEntry]
  have hservices : fields.lookup "services" =
      some (.list (((entriesOf v).filter IsListed).map listedValue)) := by
    simp [hfields]
  have himports : fields.lookup "imports" =
      some (.list (((entriesOf v).filter IsImport).map importValue)) := by
    simp [hfields, List.lookup_cons]
  have hlisted := checkList_filter_eq_ok IsListed fun _ hentry hkind _ =>
    check_listedValue (isPlain_of_mem_entriesOf h hentry) hkind
  have himport := checkList_filter_eq_ok IsImport fun _ hentry _ _ =>
    check_importValue (isPlain_of_mem_entriesOf h hentry)
  rw [describedValue, ← hfields, Value.object, Plugin.check_eq_ok, unknownKeys_object hknown,
    checkField_eq_textAt h hidentifier, checkField_written? hversion, checkField_eq_ok,
    checkField_eq_ok, Value.lookup?_object, Value.lookup?_object, hservices, himports]
  simp only [hlisted, himport]
  constructor
  · rintro ⟨-, ⟨hid, hid'⟩, hversion', ⟨hnames, hservices'⟩, himport, himports'⟩
    refine ⟨⟨hid, hnames, himport⟩, ?_⟩
    obtain ⟨_, _, _, _⟩ := p
    simp_all [pluginOf]
  · rintro ⟨⟨hid, hnames, himport⟩, rfl⟩
    exact ⟨trivial, ⟨hid, rfl⟩, rfl, ⟨hnames, rfl⟩, himport, rfl⟩

/-! ## What has no influence -/

/-- The keys of an entry that count. -/
def entryKeys : List String :=
  ["type", "name", "version", "versionRange", "sourcePlugin", "sourceName", "localName"]

/-- Two entries have the same under the keys that count. -/
structure AlikeEntry (entry entry' : Value) : Prop where
  isMap : entry.IsMap ↔ entry'.IsMap
  keys : ∀ key ∈ entryKeys, entry.get? key = entry'.get? key

/-- Two data services are the same, or lists of entries that have the same under the keys that
count. -/
inductive AlikeServices : Option Value → Option Value → Prop
  | same {data : Option Value} : AlikeServices data data
  | entries {entries entries' : List Value} (h : List.Forall₂ AlikeEntry entries entries') :
      AlikeServices (some (.list entries)) (some (.list entries'))

/-- Two definitions have the same under the keys that count. -/
structure Alike (v v' : Value) : Prop where
  isMap : v.IsMap ↔ v'.IsMap
  identifier : v.get? "identifier" = v'.get? "identifier"
  pluginVersion : v.get? "pluginVersion" = v'.get? "pluginVersion"
  dataServices : AlikeServices (v.get? "dataServices") (v'.get? "dataServices")

/-- Two entries are sorted and rebuilt in the same way. -/
structure SameEntry (entry entry' : Value) : Prop where
  isMap : entry.IsMap ↔ entry'.IsMap
  type : entry.get? "type" = entry'.get? "type"
  name : entry.get? "name" = entry'.get? "name"
  version : present? (entry.get? "version") = present? (entry'.get? "version")
  importing : IsImport entry → importValue entry = importValue entry'

/-- Two data services are refused alike, or their entries are sorted and rebuilt in the same way. -/
inductive SameServices : Except Fault (List Value) → Except Fault (List Value) → Prop
  | refused (fault : Fault) : SameServices (.error fault) (.error fault)
  | entries {entries entries' : List Value} (h : List.Forall₂ SameEntry entries entries') :
      SameServices (.ok entries) (.ok entries')

/-- Two definitions are rebuilt in the same way. -/
structure SameDefinition (v v' : Value) : Prop where
  isMap : v.IsMap ↔ v'.IsMap
  identifier : v.get? "identifier" = v'.get? "identifier"
  pluginVersion : present? (v.get? "pluginVersion") = present? (v'.get? "pluginVersion")
  dataServices : SameServices (dataServices (.ofValue v) v) (dataServices (.ofValue v') v')

variable {v' entry' : Value} {entries' : List Value}

theorem SameEntry.refl (entry : Value) : SameEntry entry entry :=
  ⟨Iff.rfl, rfl, rfl, rfl, fun _ => rfl⟩

theorem SameServices.refl (services : Except Fault (List Value)) :
    SameServices services services := by
  cases services with
  | error fault => exact .refused fault
  | ok entries => exact .entries (List.forall₂_same.mpr fun entry _ => .refl entry)

theorem AlikeEntry.sameEntry (h : AlikeEntry entry entry') : SameEntry entry entry' where
  isMap := h.isMap
  type := h.keys "type" (by decide)
  name := h.keys "name" (by decide)
  version := by rw [h.keys "version" (by decide)]
  importing _ := by
    rw [importValue, importValue, range?, range?, h.keys "sourcePlugin" (by decide),
      h.keys "sourceName" (by decide), h.keys "localName" (by decide),
      h.keys "versionRange" (by decide), h.keys "version" (by decide)]

theorem AlikeServices.sameServices
    (h : AlikeServices (v.get? "dataServices") (v'.get? "dataServices")) :
    SameServices (dataServices (.ofValue v) v) (dataServices (.ofValue v') v') := by
  obtain ⟨data, hdata⟩ : ∃ data, data = v.get? "dataServices" := ⟨_, rfl⟩
  obtain ⟨data', hdata'⟩ : ∃ data', data' = v'.get? "dataServices" := ⟨_, rfl⟩
  rw [← hdata, ← hdata'] at h
  cases h with
  | same =>
      have hsame : dataServices (.ofValue v') v' = dataServices (.ofValue v) v := by
        rw [dataServices, dataServices, ← hdata, ← hdata']
        rfl
      rw [hsame]
      exact .refl _
  | entries h =>
      rw [dataServices_list hdata.symm, dataServices_list hdata'.symm]
      exact .entries (h.imp fun _ _ => AlikeEntry.sameEntry)

theorem Alike.sameDefinition (h : Alike v v') : SameDefinition v v' where
  isMap := h.isMap
  identifier := h.identifier
  pluginVersion := by rw [h.pluginVersion]
  dataServices := h.dataServices.sameServices

theorem SameEntry.reexportValues_eq (h : SameEntry entry entry') :
    reexportValues entry = reexportValues entry' := by
  rw [reexportValues, reexportValues, h.name]

theorem SameEntry.serviceValue_eq (v v' : Value) (h : SameEntry entry entry') (type : Value) :
    serviceValue (.ofValue v) entry type = serviceValue (.ofValue v') entry' type := by
  rw [serviceValue, serviceValue, presentText, presentText, h.name, h.version]
  rfl

/-- A value counts as the type of imports only if its text is that. -/
theorem rendered_of_isText {w type : Value} (htext : text (.ofValue root) w = .ok type)
    (himport : type.isText importType = true) : rendered w = some importType := by
  unfold text at htext
  split at htext
  · cases htext
    cases himport
  · split at htext
    · rename_i s hs
      cases htext
      have hs' : s = importType := by simpa [Value.isText] using himport
      exact hs.trans (congrArg some hs')
    · cases htext

theorem declarations_congr (v v' : Value) (h : List.Forall₂ SameEntry entries entries')
    (position : Nat) :
    declarations (.ofValue v) position entries = declarations (.ofValue v') position entries' := by
  induction h generalizing position with
  | nil => rfl
  | @cons entry entry' rest rest' hentry _ ih =>
      by_cases hmap : entry.IsMap
      · have hmap' := hentry.isMap.mp hmap
        cases entry with
        | map members =>
            cases entry' with
            | map members' =>
                have htext (type : Value) : text (.ofValue v) type = text (.ofValue v') type := rfl
                have hview : (Document.ofValue v).view (.map members) = .map members := rfl
                have hview' : (Document.ofValue v').view (.map members') = .map members' := rfl
                simp only [declarations, hview, hview', ← hentry.type, htext,
                  hentry.reexportValues_eq, hentry.serviceValue_eq v v', ih]
                cases htype : text (.ofValue v')
                    (((Value.map members).get? "type").getD (.text "service")) with
                | error fault => rfl
                | ok type =>
                    simp only [bind, Except.bind]
                    -- the fields of an import are read of imports only
                    by_cases himport : type.isText importType = true
                    · rw [hentry.importing (rendered_of_isText htype himport)]
                    · simp only [if_neg himport]
            | _ => exact hmap'.elim
        | _ => exact hmap.elim
      · have hmap' : ¬entry'.IsMap := fun h => hmap (hentry.isMap.mpr h)
        rw [declarations_cons_of_not_isMap hmap, declarations_cons_of_not_isMap hmap']

/-- Definitions that are rebuilt in the same way are checked as the same value. -/
theorem described_congr (h : SameDefinition v v') :
    described (.ofValue v) = described (.ofValue v') := by
  by_cases hmap : v.IsMap
  · have hmap' := h.isMap.mp hmap
    cases v with
    | map members =>
        cases v' with
        | map members' =>
            have hversion : presentText (.ofValue (.map members))
                ((Value.map members).get? "pluginVersion") =
                presentText (.ofValue (.map members'))
                  ((Value.map members').get? "pluginVersion") := by
              rw [presentText, presentText, h.pluginVersion]
              rfl
            have hview : (Document.ofValue (.map members)).view (.map members) = .map members := rfl
            have hview' :
                (Document.ofValue (.map members')).view (.map members') = .map members' := rfl
            have hroot : (Document.ofValue (.map members)).root = .map members := rfl
            have hroot' : (Document.ofValue (.map members')).root = .map members' := rfl
            have hdata := h.dataServices
            simp only [described, hroot, hroot', hview, hview', hversion, h.identifier]
            -- what is left to compare are the services of both
            generalize dataServices (.ofValue (.map members)) (.map members) = services at hdata ⊢
            generalize
              dataServices (.ofValue (.map members')) (.map members') = services' at hdata ⊢
            cases hdata with
            | refused fault => rfl
            | entries hentries =>
                have hdeclarations := declarations_congr (.map members) (.map members') hentries 0
                simp only [bind, Except.bind, hdeclarations]
        | _ => exact hmap'.elim
    | _ => exact hmap.elim
  · have hmap' : ¬v'.IsMap := fun hmap' => hmap (h.isMap.mpr hmap')
    rw [described_of_not_isMap hmap, described_of_not_isMap hmap']

/-! ## What is loaded -/

/-- A definition of the right shape is accepted if what it is checked as is. -/
theorem result_read_eq_ok (source : String) (h : v.IsPlain) {p : Plugin} :
    (read source (.ofValue v)).result = .ok p ↔ Grammar v ∧ p = pluginOf v := by
  rw [result_read]
  by_cases hshaped : Shaped v
  · have hgrammar : Grammar v ↔ v.HasText "identifier" ∧
        (∀ entry ∈ entriesOf v, IsListed entry → entry.HasText "name") ∧
          ∀ entry ∈ entriesOf v, IsImport entry → ImportGrammar entry :=
      ⟨fun g => ⟨g.identifier, g.names, g.imports⟩, fun g => ⟨hshaped, g.1, g.2.1, g.2.2⟩⟩
    rw [hgrammar, ← check_describedValue h, described_eq h hshaped]
    cases hcheck : Plugin.check (describedValue v) <;> simp [hcheck, Except.bind, Except.mapError]
  · obtain ⟨fault, hfault⟩ := described_eq_error h hshaped
    rw [hfault]
    constructor
    · intro hok
      cases hok
    · rintro ⟨hgrammar, -⟩
      exact absurd hgrammar.toShaped hshaped

theorem result_loaded_of_ok {source : String} {d : Definition} {p : Plugin} (h : d.result = .ok p) :
    (loaded source d).result = .ok p := by
  simp [loaded, h]

/-- A definition that is refused is told why. -/
theorem result_loaded_of_error {source : String} (h : v.IsPlain) {fault : Fault}
    (hfault : (read source (.ofValue v)).result = .error fault) :
    ∃ details, details ≠ [] ∧ (loaded source (read source (.ofValue v))).result =
      .error (.refused (.definition source details)) := by
  have hjust := (meets_read source (.ofValue v)).fault hfault
  cases fault with
  | malformed details => exact ⟨details, hjust, by simp [loaded, hfault]⟩
  | unprintable => exact absurd hjust (h.isJson.not_holdsOversized v .self)

/-- **What is accepted.**  A definition in JSON whose texts are well-formed is accepted exactly if
it is in the grammar, as the plugin that it describes, and otherwise refused with its source and
something to say about it.  What it has under other keys has no influence. -/
theorem loaded_iff_grammar (source : String) (h : v.IsPlain) :
    (∀ p, (loaded source (read source (.ofValue v))).result = .ok p ↔ Grammar v ∧ p = pluginOf v) ∧
      (¬Grammar v → ∃ details, details ≠ [] ∧
        (loaded source (read source (.ofValue v))).result =
          .error (.refused (.definition source details))) ∧
      ∀ v', Alike v v' → (loaded source (read source (.ofValue v'))).result =
        (loaded source (read source (.ofValue v))).result := by
  refine ⟨?_, ?_, ?_⟩
  · intro p
    cases hresult : (read source (.ofValue v)).result with
    | ok found =>
        rw [result_loaded_of_ok hresult, ← result_read_eq_ok source h, hresult]
        simp
    | error fault =>
        obtain ⟨details, -, hrefused⟩ := result_loaded_of_error h hresult
        rw [hrefused, ← result_read_eq_ok source h, hresult]
        simp
  · intro hnot
    cases hresult : (read source (.ofValue v)).result with
    | ok found => exact absurd ((result_read_eq_ok source h).mp hresult).1 hnot
    | error fault => exact result_loaded_of_error h hresult
  · intro v' halike
    have hread : (read source (.ofValue v')).result = (read source (.ofValue v)).result := by
      rw [result_read, result_read, described_congr halike.sameDefinition]
    simp only [loaded, hread]

/-- A definition with an import that is passed on under a name of its own. -/
def relay : Value :=
  .object [("identifier", .text "relay"), ("dataServices", .list [.object
    [("type", .text "import"), ("sourcePlugin", .text "files"), ("sourceName", .text "store"),
      ("localName", .text "disk"), ("name", .text "storage"), ("comment", .text "")]])]

theorem isPlain_relay : relay.IsPlain := by
  refine .object ?_
  simp only [List.forall_mem_cons]
  refine ⟨.text, .list ?_, by simp⟩
  simp only [List.forall_mem_cons]
  refine ⟨.object ?_, by simp⟩
  simp only [List.forall_mem_cons]
  exact ⟨.text, .text, .text, .text, .text, .text, by simp⟩

theorem grammar_relay : Grammar relay where
  isMap := trivial
  dataServices data hdata _ := ⟨_, (Option.some.inj hdata).symm⟩
  entries := by simp [relay, entriesOf, Value.get?, Value.object, Value.lookup?, Value.IsMap]
  identifier := ⟨"relay", by decide, rfl⟩
  names := by
    simp [relay, entriesOf, Value.get?, Value.object, Value.lookup?, Value.HasText]
  imports := by
    intro entry hentry _
    obtain rfl := List.mem_singleton.mp hentry
    exact ⟨⟨"files", by decide, rfl⟩, ⟨"store", by decide, rfl⟩, ⟨"disk", by decide, rfl⟩,
      Or.inl rfl⟩

theorem loaded_iff_grammar_relay : relay.IsPlain ∧
    (loaded "relay.json" (read "relay.json" (.ofValue relay))).result =
      .ok ⟨"relay", none, [⟨"storage", "", .reexport, "import"⟩],
        [⟨"files", "store", "disk", .text "*", none⟩]⟩ :=
  ⟨isPlain_relay, ((loaded_iff_grammar "relay.json" isPlain_relay).1 _).mpr ⟨grammar_relay, rfl⟩⟩

end Definition

end PluginOrder
