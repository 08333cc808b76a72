import PluginOrder.Proofs.Plugin.Concatenation
import PluginOrder.Proofs.Plugin.Writing
import PluginOrder.Proofs.Resolution.Telling

/-!
# What is loaded is valid

A definition becomes a plugin by being checked, and a checked plugin is valid.  So all plugins that
are loaded are valid, whatever the files hold and however many paths lead to them
(`valid_of_loadAll`).

Among other things the ranges of a valid plugin are texts.  Nothing that is decided on loaded
plugins is therefore kept from the caller for want of a text (`Catalog.legible_of_valid`).
-/

namespace PluginOrder

namespace Definition

variable {s : Snapshot} {paths files : List Path} {path file : Path} {plugins : List Plugin}
  {p : Plugin}

theorem valid_of_read {source : String} {d : Document} (h : (read source d).result = .ok p) :
    p.Valid := by
  unfold read at h
  split at h
  · cases h
  · split at h
    · cases h
    · rename_i hcheck
      cases h
      exact Plugin.valid_of_check hcheck

/-- Whatever the suffix of a file and its document are, the last thing that is done is the check. -/
theorem Gives.valid (h : Gives s file p) : p.Valid := by
  unfold Gives load at h
  split at h
  · cases h
  · split at h
    · cases h
    · split at h
      · cases h
      · simp only [loaded] at h
        split at h
        · rename_i hread
          cases h
          exact valid_of_read hread
        · cases h
        · cases h

theorem valid_of_loadEach (h : (loadEach s files).result = .ok plugins) :
    ∀ p ∈ plugins, p.Valid := by
  have hgives : List.Forall₂ (Gives s) files plugins := (meets_loadEach s files).result h
  clear h
  induction hgives with
  | nil => exact List.forall_mem_nil _
  | cons hfirst _ ih => exact List.forall_mem_cons.mpr ⟨hfirst.valid, ih⟩

theorem valid_of_loadPath (h : (loadPath s path).result = .ok plugins) :
    ∀ p ∈ plugins, p.Valid := by
  unfold loadPath at h
  split at h
  · cases h
  · cases h
  · exact valid_of_loadEach h
  · split at h
    · cases h
    · exact valid_of_loadEach h

/-- **What is loaded is valid.** -/
theorem valid_of_loadAll (h : (loadAll s paths).result = .ok plugins) : ∀ p ∈ plugins, p.Valid := by
  induction paths generalizing plugins with
  | nil =>
      cases h
      exact List.forall_mem_nil _
  | cons path rest ih =>
      simp only [loadAll] at h
      split at h
      · cases h
      · rename_i hfirst
        cases hrest : (loadAll s rest).result with
        | error fault =>
            rw [hrest] at h
            cases h
        | ok others =>
            rw [hrest] at h
            cases h
            exact List.forall_mem_append.mpr ⟨valid_of_loadPath hfirst, ih hrest⟩

end Definition

/-- The ranges of valid plugins are texts. -/
theorem Catalog.legible_of_valid {catalog : Catalog}
    (h : ∀ key p, catalog.get? key = some p → p.Valid) : catalog.Legible := by
  intro key p hp i hi hnone
  obtain ⟨range, hrange⟩ := ((h key p hp).imports i hi).range
  rw [hrange] at hnone
  cases hnone

end PluginOrder
