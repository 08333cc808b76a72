import PluginOrder.Proofs.Failure
import PluginOrder.Proofs.Plugin.Checking
import PluginOrder.Proofs.Value.Parts

/-!
# Why a definition is refused

A definition that is refused is told why, unless a number in it is too large to be shown as text
(`Definition.meets_read`).

The text of a value is asked for in a few places only, and each time the value is a part of the
document: of the outermost value, or of a collection (`Document.Within`).
-/

namespace PluginOrder

namespace Document

variable {d : Document} {v w : Value} {key : String}

/-- A number in a value that is too large to be shown as text is in the document. -/
def Within (d : Document) (v : Value) : Prop := d.HoldsOversized v → d.HoldsOversized d.root

theorem within_root (d : Document) : d.Within d.root := id

theorem Within.part (h : d.Within v) (hpart : Value.Part w v) : d.Within w := by
  rintro ⟨n, hsize, hn | hn⟩
  · exact h ⟨n, hsize, Or.inl (hn.trans hpart)⟩
  · exact ⟨n, hsize, Or.inr hn⟩

theorem within_text (s : String) : d.Within (.text s) := by
  rintro ⟨n, hsize, hn | hn⟩
  · cases hn
  · exact ⟨n, hsize, Or.inr hn⟩

theorem Within.view (h : d.Within v) : d.Within (d.view v) := by
  cases v with
  | shared number =>
      rintro ⟨n, hsize, hn | hn⟩
      · have hnull : d.view (.shared number) ≠ .null := by
          intro hnull
          rw [hnull] at hn
          cases hn
        exact ⟨n, hsize, Or.inr ⟨_, (view_mem_collections hnull).2, hn⟩⟩
      · exact ⟨n, hsize, Or.inr hn⟩
  | _ => exact h

end Document

namespace Definition

variable {d : Document} {v entry : Value}

/-- The fault of a definition is told, or a number in the document is too large to be shown. -/
def Fault.IsJust (d : Document) : Fault → Prop
  | .malformed details => details ≠ []
  | .unprintable => d.HoldsOversized d.root

theorem meets_text (h : d.Within v) : Meets (fun _ => True) (Fault.IsJust d) (text d v) := by
  unfold text
  split
  · trivial
  · split
    · trivial
    · rename_i hnone
      exact h (Document.holdsOversized_of_display? hnone)

theorem meets_presentText (value? : Option Value) (h : ∀ v, value? = some v → d.Within v) :
    Meets (fun _ => True) (Fault.IsJust d) (presentText d value?) := by
  unfold presentText
  split
  · trivial
  · rename_i v hv
    refine (meets_text (h v ?_)).map fun _ _ => trivial
    unfold present? at hv
    split at hv
    · cases hv
    · exact hv

theorem meets_serviceValue (h : d.Within entry) (type : Value) :
    Meets (fun _ => True) (Fault.IsJust d) (serviceValue d entry type) := by
  have hversion := meets_presentText (d := d) (entry.get? "version")
    fun v hv => h.part (Value.part_of_get? hv)
  exact hversion.bind fun _ _ => trivial

theorem meets_declarations {entries : List Value} (h : ∀ entry ∈ entries, d.Within entry)
    (position : Nat) :
    Meets (fun _ => True) (Fault.IsJust d) (declarations d position entries) := by
  induction entries generalizing position with
  | nil => trivial
  | cons entry rest ih =>
      obtain ⟨hentry, hrest⟩ := List.forall_mem_cons.mp h
      simp only [declarations]
      split
      · rename_i members hview
        have hmap : d.Within (.map members) := hview ▸ hentry.view
        have htype : d.Within (((Value.map members).get? "type").getD (.text "service")) := by
          cases hkey : (Value.map members).get? "type" with
          | none => exact Document.within_text _
          | some type => exact hmap.part (Value.part_of_get? hkey)
        refine (meets_text htype).bind fun type _ => .ite (fun _ => ?_) fun _ => ?_
        · exact (ih hrest (position + 1)).bind fun _ _ => trivial
        · refine (meets_serviceValue hmap type).bind fun _ _ => ?_
          exact (ih hrest (position + 1)).bind fun _ _ => trivial
      · exact List.cons_ne_nil _ _

theorem meets_dataServices (h : d.Within v) :
    Meets (fun items => ∀ item ∈ items, d.Within item) (Fault.IsJust d) (dataServices d v) := by
  unfold dataServices
  cases hkey : v.get? "dataServices" with
  | none => exact List.forall_mem_nil _
  | some data =>
      have hdata := (h.part (Value.part_of_get? hkey)).view
      simp only [Option.map_some]
      refine .ite (fun _ => ?_) fun _ => List.forall_mem_nil _
      split
      · rename_i items heq
        exact fun item hitem => (heq ▸ hdata).part (.item hitem .self)
      · exact List.cons_ne_nil _ _

theorem meets_described (d : Document) :
    Meets (fun _ => True) (Fault.IsJust d) (described d) := by
  have hroot := (Document.within_root d).view
  unfold described
  split
  · rename_i members hview
    rw [hview] at hroot
    refine (meets_dataServices hroot).bind fun items hitems => ?_
    refine (meets_declarations hitems 0).bind fun _ _ => ?_
    have hversion := meets_presentText (d := d) ((Value.map members).get? "pluginVersion")
      fun v hv => hroot.part (Value.part_of_get? hv)
    exact hversion.bind fun _ _ => trivial
  · exact List.cons_ne_nil _ _

/-- **Why a definition is refused.**  There is something to say about it, or a number in it is too
large to be shown. -/
theorem meets_read (source : String) (d : Document) :
    Meets (fun _ => True) (Fault.IsJust d) (read source d).result := by
  rw [result_read]
  refine (meets_described d).bind fun described _ => ?_
  have htells := Plugin.tells_check described
  cases hcheck : Plugin.check described with
  | ok p => trivial
  | error findings =>
      rw [hcheck] at htells
      simpa [Meets, Fault.IsJust, Except.mapError, Checked.Tells] using htells

end Definition

end PluginOrder
