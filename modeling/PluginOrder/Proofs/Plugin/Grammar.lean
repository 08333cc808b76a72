import PluginOrder.Proofs.Json.Reading
import PluginOrder.Proofs.Plugin.Checking

/-!
# The grammar of definitions

What a definition has to look like to be accepted (`Grammar`), and the plugin that it then describes
(`pluginOf`): one import for each entry that is an import, and one service for each entry that is
listed, both in the order of the entries.

A definition is not checked as it stands.  Its entries are first rebuilt, as services and imports,
and the rebuilt value is checked.  Here the rebuilding is brought into the terms of the
grammar: for a definition of the right shape it comes to `describedValue` (`described_eq`), and for
any other one to a refusal (`described_eq_error`).
-/

namespace PluginOrder

namespace Value

/-- A value is a map. -/
def IsMap : Value → Prop
  | .map _ => True
  | _ => False

/-- A map has a text with at least one character under a key. -/
def HasText (v : Value) (key : String) : Prop := ∃ s, s ≠ "" ∧ v.get? key = some (.text s)

/-- The text under a key of a map. -/
def textAt (v : Value) (key : String) : String :=
  match v.get? key with
  | some (.text s) => s
  | _ => ""

/-- A value of JSON whose texts are well-formed. -/
structure IsPlain (v : Value) : Prop where
  isJson : v.IsJson
  wellFormed : ∀ points, ¬Part (.illFormed points) v

variable {v w : Value} {key : String}

theorem IsPlain.part (h : v.IsPlain) (hpart : Part w v) : w.IsPlain where
  isJson := h.isJson.part hpart
  wellFormed points hpoints := h.wellFormed points (hpoints.trans hpart)

theorem IsPlain.text {s : String} : (Value.text s).IsPlain where
  isJson := .text
  wellFormed _ hpart := by cases hpart

theorem IsPlain.list {items : List Value} (h : ∀ item ∈ items, item.IsPlain) :
    (Value.list items).IsPlain where
  isJson := .list fun item hitem => (h item hitem).isJson
  wellFormed points hpart := by
    cases hpart with
    | item hitem hpart => exact (h _ hitem).wellFormed points hpart

theorem IsPlain.object {entries : List (String × Value)} (h : ∀ entry ∈ entries, entry.2.IsPlain) :
    (Value.object entries).IsPlain where
  isJson := by
    refine .map ?_ ?_
    · rintro _ hentry
      obtain ⟨entry, -, rfl⟩ := List.mem_map.mp hentry
      trivial
    · rintro _ hentry
      obtain ⟨entry, hmem, rfl⟩ := List.mem_map.mp hentry
      exact (h entry hmem).isJson
  wellFormed points hpart := by
    cases hpart with
    | entryKey hentry hpart =>
        obtain ⟨entry, -, heq⟩ := List.mem_map.mp hentry
        cases heq
        cases hpart
    | entryValue hentry hpart =>
        obtain ⟨entry, hmem, heq⟩ := List.mem_map.mp hentry
        cases heq
        exact (h entry hmem).wellFormed points hpart

theorem lookup?_object (entries : List (String × Value)) :
    lookup? key (entries.map fun (k, value) => (.text k, value)) = entries.lookup key := by
  induction entries with
  | nil => rfl
  | cons entry rest ih =>
      obtain ⟨k, value⟩ := entry
      rw [List.map_cons, lookup?, ih, List.lookup_cons]
      by_cases hk : k = key
      · simp [hk]
      · have hbeq : (key == k) = false := beq_eq_false_iff_ne.mpr (Ne.symm hk)
        simp [hk, hbeq]

end Value

namespace Definition

/-! ## The grammar -/

/-- The text of a value. -/
def rendered (v : Value) : Option String := (Document.ofValue v).display? v

/-- The entries of a definition. -/
def entriesOf (v : Value) : List Value :=
  match v.get? "dataServices" with
  | some (.list entries) => entries
  | _ => []

/-- The type of an entry. -/
def typeOf (entry : Value) : Option String :=
  rendered ((entry.get? "type").getD (.text "service"))

/-- An entry is an import. -/
def IsImport (entry : Value) : Prop := typeOf entry = some "import"

instance : DecidablePred IsImport := fun entry => inferInstanceAs (Decidable (typeOf entry = _))

/-- An entry is listed among the services. -/
def IsListed (entry : Value) : Prop := ¬IsImport entry ∨ (entry.get? "name").isSome

instance : DecidablePred IsListed := fun _ => inferInstanceAs (Decidable (_ ∨ _))

/-- What an entry has for a range. -/
def rangeOf (entry : Value) : Option Value :=
  (entry.get? "versionRange").or (entry.get? "version")

/-- The grammar of import entries. -/
structure ImportGrammar (entry : Value) : Prop where
  sourcePlugin : entry.HasText "sourcePlugin"
  sourceName : entry.HasText "sourceName"
  localName : entry.HasText "localName"
  range : rangeOf entry = none ∨ rangeOf entry = some .null ∨ ∃ s, rangeOf entry = some (.text s)

/-- A definition is a map, and its data services are absent, count as false, or are a list of
maps. -/
structure Shaped (v : Value) : Prop where
  isMap : v.IsMap
  dataServices : ∀ data, v.get? "dataServices" = some data → data.isTruthy = true →
    ∃ entries, data = .list entries
  entries : ∀ entry ∈ entriesOf v, entry.IsMap

/-- The grammar of definitions. -/
structure Grammar (v : Value) : Prop extends Shaped v where
  identifier : v.HasText "identifier"
  names : ∀ entry ∈ entriesOf v, IsListed entry → entry.HasText "name"
  imports : ∀ entry ∈ entriesOf v, IsImport entry → ImportGrammar entry

/-! ## What is described -/

/-- The import that an entry describes. -/
def importOf (entry : Value) : Import where
  sourcePlugin := entry.textAt "sourcePlugin"
  sourceName := entry.textAt "sourceName"
  localName := entry.textAt "localName"
  versionRange := (present? (rangeOf entry)).getD (.text "*")
  target := none

/-- The service that an entry describes. -/
def serviceOf (entry : Value) : Service where
  name := entry.textAt "name"
  version :=
    if IsImport entry then "" else ((present? (entry.get? "version")).bind rendered).getD ""
  kind := if IsImport entry then .reexport else .service
  type := (typeOf entry).getD ""

/-- The plugin that a definition describes. -/
def pluginOf (v : Value) : Plugin where
  identifier := v.textAt "identifier"
  pluginVersion := (present? (v.get? "pluginVersion")).bind rendered
  services := ((entriesOf v).filter IsListed).map serviceOf
  imports := ((entriesOf v).filter IsImport).map importOf

/-! ## Entries as they are checked -/

variable {root v w entry : Value} {entries : List Value}

theorem text_ofValue (root : Value) (h : v.IsPlain) :
    ∃ s, rendered v = some s ∧ text (.ofValue root) v = .ok (.text s) := by
  cases hrendered : rendered v with
  | none => exact absurd hrendered (h.isJson.display?_ne_none .self)
  | some s =>
      refine ⟨s, rfl, ?_⟩
      have hdisplay : (Document.ofValue root).display? v = some s := hrendered
      unfold text
      split
      · exact absurd .self (h.wellFormed _)
      · rw [hdisplay]

theorem presentText_ofValue (root : Value) (value? : Option Value)
    (h : ∀ v, value? = some v → v.IsPlain) :
    presentText (.ofValue root) value? = .ok (((present? value?).bind rendered).map .text) := by
  unfold presentText
  cases hpresent : present? value? with
  | none => rfl
  | some v =>
      have hv : value? = some v := by
        unfold present? at hpresent
        split at hpresent
        · cases hpresent
        · exact hpresent
      obtain ⟨s, hs, htext⟩ := text_ofValue root (h v hv)
      simp [htext, hs, Except.map]

theorem text_type (root : Value) (h : entry.IsPlain) :
    ∃ s, typeOf entry = some s ∧
      text (.ofValue root) ((entry.get? "type").getD (.text "service")) = .ok (.text s) := by
  cases htype : entry.get? "type" with
  | none => exact ⟨"service", by rw [typeOf, htype]; rfl, rfl⟩
  | some type =>
      rw [typeOf, htype]
      exact text_ofValue root (h.part (Value.part_of_get? htype))

/-- What a listed entry is checked as. -/
def listedValue (entry : Value) : Value :=
  if IsImport entry then
    .object [("name", (entry.get? "name").getD .null), ("kind", .text ServiceKind.reexport.name),
      ("type", .text importType)]
  else
    .object (("type", .text ((typeOf entry).getD "")) :: optionalEntry "name" (entry.get? "name") ++
      optionalEntry "version" (((present? (entry.get? "version")).bind rendered).map .text))

theorem reexportValues_eq (h : IsImport entry) :
    reexportValues entry = ([entry].filter IsListed).map listedValue := by
  unfold reexportValues
  cases hname : entry.get? "name" with
  | none => simp [IsListed, h, hname]
  | some name => simp [IsListed, listedValue, h, hname]

theorem serviceValue_eq (root : Value) (hplain : entry.IsPlain) (h : ¬IsImport entry)
    {s : String} (htype : typeOf entry = some s) :
    serviceValue (.ofValue root) entry (.text s) = .ok (listedValue entry) := by
  have hversion := presentText_ofValue root (entry.get? "version")
    fun v hv => hplain.part (Value.part_of_get? hv)
  simp [serviceValue, hversion, listedValue, h, htype, bind, Except.bind]

/-- The entries are sorted into services and imports. -/
theorem declarations_eq (root : Value) (hplain : ∀ entry ∈ entries, entry.IsPlain)
    (hmaps : ∀ entry ∈ entries, entry.IsMap) (position : Nat) :
    declarations (.ofValue root) position entries =
      .ok ((entries.filter IsListed).map listedValue,
        (entries.filter IsImport).map importValue) := by
  induction entries generalizing position with
  | nil => rfl
  | cons entry rest ih =>
      obtain ⟨hentry, hrest⟩ := List.forall_mem_cons.mp hplain
      obtain ⟨hmap, hmaps⟩ := List.forall_mem_cons.mp hmaps
      have hothers := ih hrest hmaps (position + 1)
      obtain ⟨s, hs, htext⟩ := text_type root hentry
      cases entry with
      | map members =>
          have hview : (Document.ofValue root).view (.map members) = .map members := rfl
          by_cases himport : IsImport (.map members)
          · -- an import with a name of its own is among the services too
            have hs : s = importType := by
              rw [IsImport, hs] at himport
              exact Option.some.inj himport
            subst hs
            simp only [declarations, hview, htext, hothers, bind, Except.bind, Value.isText,
              BEq.rfl, if_true, reexportValues_eq himport]
            rw [← List.map_append, ← List.filter_append, List.singleton_append,
              List.filter_cons_of_pos (p := fun b => decide (IsImport b)) (decide_eq_true himport),
              List.map_cons]
          · have hs : s ≠ importType := by
              rintro rfl
              exact himport hs
            -- any other entry is a service
            have hlisted : IsListed (.map members) := Or.inl himport
            have hservice := serviceValue_eq root hentry himport ‹_›
            simp [declarations, hview, htext, hothers, bind, Except.bind, Value.isText, hs,
              hservice, hlisted, himport]
      | _ => exact hmap.elim

theorem declarations_cons_of_not_isMap (h : ¬entry.IsMap) {position : Nat} :
    declarations (.ofValue root) position (entry :: entries) =
      .error (.malformed [⟨.text ("dataServices." ++ toString position), .text "Must be a mapping",
        none⟩]) := by
  cases entry with
  | map members => exact absurd trivial h
  | shared number => simp [declarations, Document.view, Document.ofValue, Fault.single]
  | _ => rfl

theorem declarations_eq_error (root : Value) (hplain : ∀ entry ∈ entries, entry.IsPlain)
    (hother : ∃ entry ∈ entries, ¬entry.IsMap) (position : Nat) :
    ∃ fault, declarations (.ofValue root) position entries = .error fault := by
  induction entries generalizing position with
  | nil => simp at hother
  | cons entry rest ih =>
      obtain ⟨hentry, hrest⟩ := List.forall_mem_cons.mp hplain
      by_cases hmap : entry.IsMap
      · have hother : ∃ other ∈ rest, ¬other.IsMap := by
          obtain ⟨other, hmem, hnot⟩ := hother
          rcases List.mem_cons.mp hmem with rfl | hmem
          · exact absurd hmap hnot
          · exact ⟨other, hmem, hnot⟩
        obtain ⟨fault, hfault⟩ := ih hrest hother (position + 1)
        obtain ⟨s, hs, htext⟩ := text_type root hentry
        refine ⟨fault, ?_⟩
        cases entry with
        | map members =>
            have hview : (Document.ofValue root).view (.map members) = .map members := rfl
            by_cases himport : s = importType
            · simp [declarations, hview, htext, hfault, bind, Except.bind, Value.isText, himport]
            · have hservice := serviceValue_eq root hentry
                (fun h => himport (Option.some.inj (hs.symm.trans h))) hs
              simp [declarations, hview, htext, hfault, bind, Except.bind, Value.isText, himport,
                hservice]
        | _ => exact hmap.elim
      · exact ⟨_, declarations_cons_of_not_isMap hmap⟩

theorem view_eq (root : Value) (h : v.IsPlain) : (Document.ofValue root).view v = v := by
  refine Document.view_eq_self _ ?_
  rintro number rfl
  cases h.isJson

theorem dataServices_list (h : v.get? "dataServices" = some (.list entries)) :
    dataServices (.ofValue root) v = .ok entries := by
  have hview : (Document.ofValue root).view (.list entries) = .list entries := rfl
  simp only [dataServices, h, Option.map_some, hview]
  cases entries with
  | nil => rfl
  | cons entry rest => rfl

theorem dataServices_eq (h : v.IsPlain)
    (hlist : ∀ data, v.get? "dataServices" = some data → data.isTruthy = true →
      ∃ entries, data = .list entries) :
    dataServices (.ofValue v) v = .ok (entriesOf v) := by
  cases hdata : v.get? "dataServices" with
  | none => simp [dataServices, entriesOf, hdata]
  | some data =>
      by_cases hentries : ∃ entries, data = .list entries
      · obtain ⟨entries, rfl⟩ := hentries
        rw [dataServices_list hdata, entriesOf, hdata]
      · have hfalsy : data.isTruthy ≠ true := fun htruthy => hentries (hlist data hdata htruthy)
        have hview := view_eq v (h.part (Value.part_of_get? hdata))
        simp only [dataServices, hdata, Option.map_some, hview, if_neg hfalsy, entriesOf]
        cases data with
        | list entries => exact absurd ⟨entries, rfl⟩ hentries
        | _ => rfl

theorem dataServices_eq_error (root : Value) (h : v.IsPlain) {data : Value}
    (hdata : v.get? "dataServices" = some data) (htruthy : data.isTruthy = true)
    (hlist : ∀ entries, data ≠ .list entries) :
    dataServices (.ofValue root) v = .error (.single "dataServices" "Must be a list") := by
  have hview := view_eq root (h.part (Value.part_of_get? hdata))
  simp only [dataServices, hdata, Option.map_some, hview, if_pos htruthy]

/-! ## The whole definition as it is checked -/

/-- What a definition is checked as. -/
def describedValue (v : Value) : Value :=
  .object ([("services", .list (((entriesOf v).filter IsListed).map listedValue)),
      ("imports", .list (((entriesOf v).filter IsImport).map importValue))] ++
    optionalEntry "identifier" (v.get? "identifier") ++
    optionalEntry "plugin_version" (((present? (v.get? "pluginVersion")).bind rendered).map .text))

theorem isPlain_of_mem_entriesOf (h : v.IsPlain) (hentry : entry ∈ entriesOf v) :
    entry.IsPlain := by
  unfold entriesOf at hentry
  split at hentry
  · rename_i entries hdata
    exact h.part ((Value.Part.item hentry .self).trans (Value.part_of_get? hdata))
  · cases hentry

theorem described_eq (h : v.IsPlain) (hshaped : Shaped v) :
    described (.ofValue v) = .ok (describedValue v) := by
  have hservices := dataServices_eq h hshaped.dataServices
  have hdeclarations := declarations_eq v (fun _ => isPlain_of_mem_entriesOf h)
    hshaped.entries 0
  have hversion := presentText_ofValue v (v.get? "pluginVersion")
    fun w hw => h.part (Value.part_of_get? hw)
  have hmap := hshaped.isMap
  unfold described
  rw [show (Document.ofValue v).root = v from rfl, view_eq v h]
  cases v with
  | map members => simp [hservices, hdeclarations, hversion, describedValue, bind, Except.bind]
  | _ => exact hmap.elim

theorem described_of_not_isMap (h : ¬v.IsMap) :
    described (.ofValue v) =
      .error (.malformed [.whole "Plugin definition must be a mapping"]) := by
  cases v with
  | map members => exact absurd trivial h
  | shared number => simp [described, Document.view, Document.ofValue]
  | _ => rfl

theorem described_eq_error (h : v.IsPlain) (hshaped : ¬Shaped v) :
    ∃ fault, described (.ofValue v) = .error fault := by
  by_cases hmap : v.IsMap
  · unfold described
    rw [show (Document.ofValue v).root = v from rfl, view_eq v h]
    cases v with
    | map members =>
        by_cases hlist : ∀ data, (Value.map members).get? "dataServices" = some data →
            data.isTruthy = true → ∃ entries, data = .list entries
        · -- the services are a list, so what is wrong is an entry of it
          have hservices := dataServices_eq h hlist
          have hother : ∃ entry ∈ entriesOf (.map members), ¬entry.IsMap := by
            by_contra hall
            push Not at hall
            exact hshaped ⟨hmap, hlist, hall⟩
          obtain ⟨fault, hfault⟩ := declarations_eq_error (.map members)
            (fun _ => isPlain_of_mem_entriesOf h) hother 0
          exact ⟨fault, by simp [hservices, hfault, bind, Except.bind]⟩
        · push Not at hlist
          obtain ⟨data, hdata, htruthy, hlist⟩ := hlist
          have hservices := dataServices_eq_error (.map members) h hdata htruthy hlist
          exact ⟨.single "dataServices" "Must be a list", by simp [hservices, bind, Except.bind]⟩
    | _ => exact hmap.elim
  · exact ⟨_, described_of_not_isMap hmap⟩

end Definition

end PluginOrder
