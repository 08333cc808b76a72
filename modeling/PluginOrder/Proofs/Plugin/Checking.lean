import PluginOrder.Plugin.Definition
import Mathlib.Data.List.Forall2

/-!
# What a check of a value comes to

A check succeeds exactly if the checks of all parts do (`checkItems_eq_ok`, `checkField_eq_ok`,
`checkModel_eq_ok`), and then the result is put together from theirs.  A check that fails has found
something: no way of putting checks together loses the findings of a part (`Checked.Tells`).
-/

namespace PluginOrder

namespace Checked

variable {α β : Type}

theorem ap_eq_ok {a : Checked α} {f : Checked (α → β)} {b : β} :
    Checked.ap a f = .ok b ↔ ∃ g x, f = .ok g ∧ a = .ok x ∧ g x = b := by
  cases f <;> cases a <;> simp [Checked.ap]

theorem within_eq_ok {place : Place} {a : Checked α} {x : α} :
    Checked.within place a = .ok x ↔ a = .ok x := by
  cases a <;> simp [Checked.within]

/-! ## Findings -/

/-- A check that fails has found something. -/
def Tells (a : Checked α) : Prop := a ≠ .error []

theorem Tells.ok (x : α) : Tells (.ok x : Checked α) := by simp [Tells]

theorem Tells.fail (complaint : Complaint) : Tells (fail complaint : Checked α) := by
  simp [Tells, Checked.fail]

theorem Tells.within {a : Checked α} (h : a.Tells) (place : Place) :
    (Checked.within place a).Tells := by
  cases a with
  | ok x => exact .ok x
  | error findings => simpa [Tells, Checked.within] using h

theorem Tells.ap {a : Checked α} {f : Checked (α → β)} (ha : a.Tells) (hf : f.Tells) :
    (Checked.ap a f).Tells := by
  cases f <;> cases a <;> simp_all [Tells, Checked.ap]

theorem Tells.map {a : Checked α} (h : a.Tells) (f : α → β) : Tells (a.map f) := by
  cases a with
  | ok x => exact .ok (f x)
  | error findings => simpa [Tells, Except.map] using h

end Checked

open Checked

variable {α : Type}

/-! ## Scalars -/

theorem tells_checkText (v : Value) : (checkText v).Tells := by
  unfold checkText
  split
  case h_1 => exact .ok _
  case h_2 => exact .fail _
  case h_3 => split <;> first | exact .ok _ | exact .fail _
  case h_4 => exact .fail _

theorem tells_checkNonempty (v : Value) : (checkNonempty v).Tells := by
  have htext := tells_checkText v
  unfold checkNonempty
  cases h : checkText v with
  | ok s =>
      dsimp only
      split
      · exact .fail _
      · exact .ok s
  | error findings =>
      rw [h] at htext
      simpa [Tells] using htext

theorem tells_checkText? (v : Value) : (checkText? v).Tells := by
  unfold checkText?
  split
  · exact .ok none
  · exact (tells_checkText v).map some

theorem tells_checkKind (v : Value) : (checkKind v).Tells := by
  unfold checkKind
  split
  · split
    · exact .ok _
    · exact .fail _
  · exact .fail _

/-! ## Lists and models -/

theorem checkItems_eq_ok {check : Value → Checked α} {position : Nat} {items : List Value}
    {results : List α} :
    checkItems check position items = .ok results ↔
      List.Forall₂ (fun v a => check v = .ok a) items results := by
  induction items generalizing position results with
  | nil => cases results <;> simp [checkItems]
  | cons v rest ih =>
      simp only [checkItems, ap_eq_ok, within_eq_ok, ih]
      cases results with
      | nil => simp
      | cons a others =>
          constructor
          · rintro ⟨_, as, ⟨_, a, hcons, ha, rfl⟩, has, heq⟩
            cases hcons
            cases heq
            exact .cons ha has
          · intro h
            cases h with
            | cons ha has => exact ⟨_, others, ⟨_, a, rfl, ha, rfl⟩, has, rfl⟩

theorem tells_checkItems {check : Value → Checked α} (h : ∀ v, (check v).Tells) (position : Nat)
    (items : List Value) : (checkItems check position items).Tells := by
  induction items generalizing position with
  | nil => exact .ok []
  | cons v rest ih => exact (ih (position + 1)).ap (((h v).within _).ap (.ok _))

theorem tells_checkList {check : Value → Checked α} (h : ∀ v, (check v).Tells) (v : Value) :
    (checkList check v).Tells := by
  cases v with
  | list items => exact tells_checkItems h 0 items
  | _ => exact .fail _

theorem checkField_eq_ok {name : String} {default? : Option α} {check : Value → Checked α}
    {entries : List (Value × Value)} {a : α} :
    checkField name default? check entries = .ok a ↔
      match Value.lookup? name entries with
      | some v => check v = .ok a
      | none => default? = some a := by
  unfold checkField
  cases Value.lookup? name entries with
  | some v => exact within_eq_ok
  | none => cases default? <;> simp [Checked.within, Checked.fail]

theorem tells_checkField {name : String} {default? : Option α} {check : Value → Checked α}
    (h : ∀ v, (check v).Tells) (entries : List (Value × Value)) :
    (checkField name default? check entries).Tells := by
  unfold checkField
  split
  · exact (h _).within _
  · split
    · exact .ok _
    · exact (Tells.fail _).within _

theorem checkModel_eq_ok {model : Model} {known : List String}
    {fields : List (Value × Value) → Checked α} {entries : List (Value × Value)} {a : α} :
    checkModel model known fields (.map entries) = .ok a ↔
      fields entries = .ok a ∧ unknownKeys known entries = [] := by
  simp only [checkModel]
  cases fields entries <;> cases unknownKeys known entries <;> simp

theorem tells_checkModel {model : Model} {known : List String}
    {fields : List (Value × Value) → Checked α} (h : ∀ entries, (fields entries).Tells)
    (v : Value) :
    (checkModel model known fields v).Tells := by
  cases v with
  | map entries =>
      have hfields := h entries
      simp only [checkModel]
      cases hentries : fields entries with
      | ok a => cases unknownKeys known entries <;> simp [Tells]
      | error findings =>
          rw [hentries] at hfields
          have hne : findings ≠ [] := by simpa [Tells] using hfields
          simp [Tells, hne]
  | _ => exact .fail _

theorem Service.check_eq_ok {entries : List (Value × Value)} {service : Service} :
    Service.check (.map entries) = .ok service ↔
      unknownKeys ["name", "version", "kind", "type"] entries = [] ∧
        checkField "name" none checkNonempty entries = .ok service.name ∧
        checkField "version" (some "") checkText entries = .ok service.version ∧
        checkField "kind" (some .service) checkKind entries = .ok service.kind ∧
        checkField "type" (some "service") checkText entries = .ok service.type := by
  rw [Service.check, checkModel_eq_ok, and_comm]
  refine and_congr_right fun _ => ?_
  simp only [ap_eq_ok, Except.ok.injEq]
  constructor
  · rintro ⟨_, _, ⟨_, _, ⟨_, _, ⟨_, _, rfl, hname, rfl⟩, hversion, rfl⟩, hkind, rfl⟩, htype, rfl⟩
    exact ⟨hname, hversion, hkind, htype⟩
  · rintro ⟨hname, hversion, hkind, htype⟩
    exact ⟨_, _, ⟨_, _, ⟨_, _, ⟨_, _, rfl, hname, rfl⟩, hversion, rfl⟩, hkind, rfl⟩, htype, rfl⟩

theorem Import.check_eq_ok {entries : List (Value × Value)} {i : Import} :
    Import.check (.map entries) = .ok i ↔
      unknownKeys ["source_plugin", "source_name", "local_name", "version_range", "target_service"]
          entries = [] ∧
        checkField "source_plugin" none checkNonempty entries = .ok i.sourcePlugin ∧
        checkField "source_name" none checkNonempty entries = .ok i.sourceName ∧
        checkField "local_name" none checkNonempty entries = .ok i.localName ∧
        (∃ range, checkField "version_range" (some "*") checkText entries = .ok range ∧
          i.versionRange = .text range) ∧
        checkField "target_service" (some none) checkTarget entries = .ok i.target := by
  rw [Import.check, checkModel_eq_ok, and_comm]
  refine and_congr_right fun _ => ?_
  simp only [ap_eq_ok, Except.ok.injEq]
  constructor
  · rintro ⟨_, _, ⟨_, _, ⟨_, _, ⟨_, _, ⟨_, _, rfl, hplugin, rfl⟩, hname, rfl⟩, hlocal, rfl⟩, hrange,
      rfl⟩, htarget, rfl⟩
    exact ⟨hplugin, hname, hlocal, ⟨_, hrange, rfl⟩, htarget⟩
  · obtain ⟨_, _, _, _, _⟩ := i
    rintro ⟨hplugin, hname, hlocal, ⟨_, hrange, rfl⟩, htarget⟩
    exact ⟨_, _, ⟨_, _, ⟨_, _, ⟨_, _, ⟨_, _, rfl, hplugin, rfl⟩, hname, rfl⟩, hlocal, rfl⟩, hrange,
      rfl⟩, htarget, rfl⟩

theorem Plugin.check_eq_ok {entries : List (Value × Value)} {p : Plugin} :
    Plugin.check (.map entries) = .ok p ↔
      unknownKeys ["identifier", "plugin_version", "services", "imports"] entries = [] ∧
        checkField "identifier" none checkNonempty entries = .ok p.identifier ∧
        checkField "plugin_version" (some none) checkText? entries = .ok p.pluginVersion ∧
        checkField "services" (some []) (checkList Service.check) entries = .ok p.services ∧
        checkField "imports" (some []) (checkList Import.check) entries = .ok p.imports := by
  rw [Plugin.check, checkModel_eq_ok, and_comm]
  refine and_congr_right fun _ => ?_
  simp only [ap_eq_ok, Except.ok.injEq]
  constructor
  · rintro ⟨_, _, ⟨_, _, ⟨_, _, ⟨_, _, rfl, hid, rfl⟩, hversion, rfl⟩, hservices, rfl⟩, himports,
    rfl⟩
    exact ⟨hid, hversion, hservices, himports⟩
  · rintro ⟨hid, hversion, hservices, himports⟩
    exact ⟨_, _, ⟨_, _, ⟨_, _, ⟨_, _, rfl, hid, rfl⟩, hversion, rfl⟩, hservices, rfl⟩, himports,
      rfl⟩

theorem Service.tells_check (v : Value) : (Service.check v).Tells :=
  tells_checkModel (fun _ =>
    (tells_checkField tells_checkText _).ap <| (tells_checkField tells_checkKind _).ap <|
      (tells_checkField tells_checkText _).ap <|
        (tells_checkField tells_checkNonempty _).ap (.ok _)) v

theorem tells_checkTarget (v : Value) : (checkTarget v).Tells := by
  unfold checkTarget
  split
  · exact .ok none
  · exact (Service.tells_check v).map some

theorem Import.tells_check (v : Value) : (Import.check v).Tells :=
  tells_checkModel (fun _ =>
    (tells_checkField tells_checkTarget _).ap <| (tells_checkField tells_checkText _).ap <|
      (tells_checkField tells_checkNonempty _).ap <| (tells_checkField tells_checkNonempty _).ap <|
        (tells_checkField tells_checkNonempty _).ap (.ok _)) v

theorem Plugin.tells_check (v : Value) : (Plugin.check v).Tells :=
  tells_checkModel (fun _ =>
    (tells_checkField (tells_checkList Import.tells_check) _).ap <|
      (tells_checkField (tells_checkList Service.tells_check) _).ap <|
        (tells_checkField tells_checkText? _).ap <|
          (tells_checkField tells_checkNonempty _).ap (.ok _)) v

/-! ## Definitions -/

namespace Definition

theorem result_read (source : String) (d : Document) :
    (read source d).result = (described d).bind fun described =>
      (Plugin.check described).mapError fun findings => .malformed (findings.map detail) := by
  unfold read
  cases described d with
  | error fault => rfl
  | ok described => cases h : Plugin.check described <;> simp [h, Except.bind, Except.mapError]

end Definition

end PluginOrder
