import PluginOrder.Proofs.Plugin.Checking
import PluginOrder.Proofs.Session.Memory

/-!
# Models as they are written

What a check accepts is written as a document value that holds every field under its name.  The same
check accepts that value again, as the same object, except that an import is then bound to nothing:
what it is bound to can be read but is never written (`stable_models`).

The values that describe one object are many: fields may be left out, a flag has many spellings, and
with an import there may come a service that it is bound to.  What they leave behind is a valid
object (`Plugin.valid_of_check`), and being valid is all that an object needs to be accepted as it
is written (`Plugin.check_toValue`).  So there are two lemmas for each model, and the way in which a
value was spelled plays no part in the second one.
-/

namespace PluginOrder

open Checked

variable {α : Type} {check : Value → Checked α} {v : Value}

/-! ## Fields -/

theorem ne_empty_of_checkNonempty {s : String} (h : checkNonempty v = .ok s) : s ≠ "" := by
  unfold checkNonempty at h
  split at h
  · split at h
    · cases h
    · rename_i hnonempty
      cases h
      intro hempty
      exact hnonempty (String.isEmpty_iff.mpr hempty)
  · cases h

theorem checkNonempty_text {s : String} (h : s ≠ "") : checkNonempty (.text s) = .ok s := by
  have hnonempty : ¬ s.isEmpty = true := fun hempty => h (String.isEmpty_iff.mp hempty)
  simp only [checkNonempty, checkText, if_neg hnonempty]

theorem checkText?_text? (s : Option String) : checkText? (.text? s) = .ok s := by
  cases s <;> rfl

theorem checkKind_name (kind : ServiceKind) : checkKind (.text kind.name) = .ok kind := by
  cases kind <;> rfl

theorem checkLevel_name (level : Level) : checkLevel (.text level.name) = .ok level := by
  simp only [checkLevel, Level.ofName?_name]

/-- What holds of the default of a field and of all that its check accepts holds of the field. -/
theorem of_checkField {p : α → Prop} {name : String} {default? : Option α}
    {entries : List (Value × Value)} {a : α} (hdefault : ∀ b, default? = some b → p b)
    (hcheck : ∀ w b, check w = .ok b → p b)
    (h : checkField name default? check entries = .ok a) : p a := by
  rw [checkField_eq_ok] at h
  cases hlookup : Value.lookup? name entries with
  | none =>
      rw [hlookup] at h
      exact hdefault a h
  | some w =>
      rw [hlookup] at h
      exact hcheck w a h

/-- A required field is never empty. -/
theorem ne_empty_of_checkField {name s : String} {entries : List (Value × Value)}
    (h : checkField name none checkNonempty entries = .ok s) : s ≠ "" := by
  apply of_checkField (p := (· ≠ "")) _ _ h
  · intro t hnone
    cases hnone
  · intro w t
    exact ne_empty_of_checkNonempty

theorem forall_of_checkList {p : α → Prop} (hcheck : ∀ w a, check w = .ok a → p a) {as : List α}
    (h : checkList check v = .ok as) : ∀ a ∈ as, p a := by
  cases v with
  | list items =>
      have hall := checkItems_eq_ok.mp h
      clear h
      induction hall with
      | nil => exact List.forall_mem_nil _
      | cons hfirst _ ih => exact List.forall_mem_cons.mpr ⟨hcheck _ _ hfirst, ih⟩
  | _ => cases h

theorem checkList_map {write : α → Value} {kept : α → α} {as : List α}
    (h : ∀ a ∈ as, check (write a) = .ok (kept a)) :
    checkList check (.list (as.map write)) = .ok (as.map kept) := by
  apply checkItems_eq_ok.mpr
  rw [List.forall₂_map_left_iff, List.forall₂_map_right_iff, List.forall₂_same]
  exact h

/-! ## Valid objects -/

/-- A service has a name. -/
def Service.Valid (s : Service) : Prop := s.name ≠ ""

/-- An import names a plugin, a service there and a service here, and requires a range as text. -/
structure Import.Valid (i : Import) : Prop where
  sourcePlugin : i.sourcePlugin ≠ ""
  sourceName : i.sourceName ≠ ""
  localName : i.localName ≠ ""
  range : ∃ s, i.versionRange = .text s

/-- A plugin has an identifier, and all of its services and imports are valid. -/
structure Plugin.Valid (p : Plugin) : Prop where
  identifier : p.identifier ≠ ""
  services : ∀ s ∈ p.services, s.Valid
  imports : ∀ i ∈ p.imports, i.Valid

theorem Service.valid_of_check {s : Service} (h : Service.check v = .ok s) : s.Valid := by
  cases v with
  | map entries => exact ne_empty_of_checkField (Service.check_eq_ok.mp h).2.1
  | _ => cases h

theorem Service.check_toValue {s : Service} (h : s.Valid) : Service.check s.toValue = .ok s := by
  have hname : checkNonempty (.text s.name) = .ok s.name := checkNonempty_text h
  have htext (t : String) : checkText (.text t) = .ok t := rfl
  rw [Service.toValue, Value.object, Service.check_eq_ok]
  simp [unknownKeys, checkField_eq_ok, Value.lookup?, hname, htext, checkKind_name]

theorem Import.valid_of_check {i : Import} (h : Import.check v = .ok i) : i.Valid := by
  cases v with
  | map entries =>
      obtain ⟨-, hplugin, hname, hlocal, ⟨s, -, hrange⟩, -⟩ := Import.check_eq_ok.mp h
      exact ⟨ne_empty_of_checkField hplugin, ne_empty_of_checkField hname,
        ne_empty_of_checkField hlocal, s, hrange⟩
  | _ => cases h

theorem Import.check_toValue {i : Import} (h : i.Valid) :
    Import.check i.toValue = .ok i.unbound := by
  obtain ⟨s, hs⟩ := h.range
  have htext : checkText (.text s) = .ok s := rfl
  rw [Import.toValue, hs, Value.object, Import.check_eq_ok]
  simp [unknownKeys, checkField_eq_ok, Value.lookup?, checkNonempty_text h.sourcePlugin,
    checkNonempty_text h.sourceName, checkNonempty_text h.localName, htext, Import.unbound, hs]

theorem Plugin.valid_of_check {p : Plugin} (h : Plugin.check v = .ok p) : p.Valid := by
  cases v with
  | map entries =>
      obtain ⟨-, hidentifier, -, hservices, himports⟩ := Plugin.check_eq_ok.mp h
      refine ⟨ne_empty_of_checkField hidentifier, ?_, ?_⟩
      · apply of_checkField (p := fun services => ∀ s ∈ services, s.Valid) _ _ hservices
        · rintro _ ⟨⟩
          exact List.forall_mem_nil _
        · intro w services
          exact forall_of_checkList fun _ _ => Service.valid_of_check
      · apply of_checkField (p := fun imports => ∀ i ∈ imports, i.Valid) _ _ himports
        · rintro _ ⟨⟩
          exact List.forall_mem_nil _
        · intro w imports
          exact forall_of_checkList fun _ _ => Import.valid_of_check
  | _ => cases h

theorem Plugin.check_toValue {p : Plugin} (h : p.Valid) :
    Plugin.check p.toValue = .ok p.unbound := by
  have hservices : checkList Service.check (.list (p.services.map Service.toValue)) =
      .ok p.services := by
    have hsame : ∀ s ∈ p.services, Service.check s.toValue = .ok (id s) := fun s hs =>
      Service.check_toValue (h.services s hs)
    rw [checkList_map hsame, List.map_id]
  have himports : checkList Import.check (.list (p.imports.map Import.toValue)) =
      .ok (p.imports.map Import.unbound) :=
    checkList_map fun i hi => Import.check_toValue (h.imports i hi)
  rw [Plugin.toValue, Value.object, Plugin.check_eq_ok]
  simp [unknownKeys, checkField_eq_ok, Value.lookup?, checkNonempty_text h.identifier,
    checkText?_text?, hservices, himports, Plugin.unbound]

/-- Every configuration is accepted as it is written. -/
theorem Config.check_toValue (c : Config) : Config.check c.toValue = .ok c := by
  have hflag (b : Bool) : checkFlag (.bool b) = .ok b := rfl
  rw [Config.toValue, Value.object, Config.check, List.map, checkModel_eq_ok]
  simp [unknownKeys, checkField, Value.lookup?, within, ap, hflag, checkLevel_name]

/-! ## Writing and checking again -/

/-- An import is written without what it is bound to. -/
theorem Import.toValue_unbound (i : Import) : i.unbound.toValue = i.toValue := rfl

theorem Plugin.toValue_unbound (p : Plugin) : p.unbound.toValue = p.toValue := by
  have himports : p.unbound.imports.map Import.toValue = p.imports.map Import.toValue := by
    rw [Plugin.unbound, List.map_map]
    exact List.map_congr_left fun i _ => Import.toValue_unbound i
  rw [Plugin.toValue, himports]
  rfl

/-- What a check accepts is accepted again as it is written.  Of the object that is `kept` it is
written the same. -/
def Stable (check : Value → Checked α) (write : α → Value) (kept : α → α) : Prop :=
  ∀ v a, check v = .ok a → check (write a) = .ok (kept a) ∧ write (kept a) = write a

/-- **Writing and checking again.**  Whatever value a plugin, a service, an import or a
configuration was read from, it is accepted again as it is written, and then written the same.
Nothing of it is lost but what its imports are bound to. -/
theorem stable_models :
    Stable Plugin.check Plugin.toValue Plugin.unbound ∧
      Stable Service.check Service.toValue id ∧
        Stable Import.check Import.toValue Import.unbound ∧
          Stable Config.check Config.toValue id := by
  refine ⟨?_, ?_, ?_, ?_⟩
  · intro v p hp
    exact ⟨Plugin.check_toValue (Plugin.valid_of_check hp), p.toValue_unbound⟩
  · intro v s hs
    exact ⟨Service.check_toValue (Service.valid_of_check hs), rfl⟩
  · intro v i hi
    exact ⟨Import.check_toValue (Import.valid_of_check hi), i.toValue_unbound⟩
  · intro v c _
    exact ⟨c.check_toValue, rfl⟩

/-- A plugin whose import comes with a service that it is bound to, and that leaves out what can
be. -/
def pantry : Value :=
  .object [("imports", .list [.object [
      ("local_name", .text "jam"), ("source_plugin", .text "cellar"),
      ("source_name", .text "jar"), ("target_service", .object [("name", .text "jar")])]]),
    ("services", .list [.object [("kind", .text "import"), ("name", .text "jam")]]),
    ("identifier", .text "pantry")]

theorem stable_models_pantry :
    ∃ p, Plugin.check pantry = .ok p ∧
      p.imports = [⟨"cellar", "jar", "jam", .text "*", some ⟨"jar", "", .service, "service"⟩⟩] ∧
      Plugin.check p.toValue = .ok ⟨"pantry", none, [⟨"jam", "", .reexport, "service"⟩],
        [⟨"cellar", "jar", "jam", .text "*", none⟩]⟩ ∧
      ∃ c, Config.check (.object [("json_logs", .text "oN"), ("loose_versions", .int 0)]) = .ok c ∧
        Config.check c.toValue = .ok ⟨false, false, .warning, true⟩ := by
  have hplugin := stable_models.1 pantry _ rfl
  have hconfig := stable_models.2.2.2
    (.object [("json_logs", .text "oN"), ("loose_versions", .int 0)]) _ rfl
  exact ⟨_, rfl, rfl, hplugin.1, _, rfl, hconfig.1⟩

end PluginOrder
