import PluginOrder.Plugin.Binding

/-!
# What an import is bound to

An import that can be served is bound to a service in the list of its provider: one of the wanted
name, no re-export, with a version that satisfies the range (`suits_of_validate`).  An import that
cannot is refused with one of the direct statuses, those that blame no other plugin's failure
(`direct_of_validate`).
-/

namespace PluginOrder

namespace Status

/-- The statuses of imports that cannot be served themselves. -/
def direct : List Status :=
  [.requiredPluginNotFound, .invalidRequiredVersionRange, .importedServiceIsAnImport,
    .requiredServiceVersionMismatch, .requiredServiceNotFound]

theorem mem_direct_iff {status : Status} :
    status ∈ direct ↔ status ≠ .requiredPluginFailedToLoad := by
  cases status <;> decide

end Status

theorem Outcome.eq_bound_of_target? {outcome : Outcome} {service : Service}
    (h : outcome.target? = some service) : outcome = .bound service := by
  cases outcome with
  | bound other => exact congrArg Outcome.bound (Option.some_inj.mp h)
  | refused reason => cases h

namespace Import

/-- A service of a provider is one that an import asks for. -/
structure Suits (c : Config) (i : Import) (provider : Plugin) (service : Service) : Prop where
  listed : service ∈ provider.services
  name_eq : service.name = i.sourceName
  kind_eq : service.kind = .service
  accepted : c.accepts service.version i.versionRange = true

variable {c : Config}

theorem eq_bound_of_isValid {outcome : Outcome} (h : outcome.isValid = true) :
    ∃ service, outcome = .bound service := by
  cases outcome with
  | bound service => exact ⟨service, rfl⟩
  | refused reason => cases h

/-- What goes through a scan is in its list, is no re-export, and satisfies the range. -/
theorem scan_eq_bound {provider : String} {range : Value} {seen : Bool} {services : List Service}
    {service : Service} (h : scan c provider range seen services = .bound service) :
    service ∈ services ∧ service.kind = .service ∧ c.accepts service.version range = true := by
  induction services generalizing seen with
  | nil => cases seen <;> simp [scan] at h
  | cons first rest ih =>
      unfold scan at h
      split at h
      · cases h
      · rename_i hkind
        split at h
        · rename_i haccepts
          cases h
          refine ⟨List.mem_cons_self, ?_, haccepts⟩
          cases hservice : service.kind with
          | service => rfl
          | reexport => simp [Service.isImport, hservice] at hkind
        · obtain ⟨hmem, hrest⟩ := ih h
          exact ⟨List.mem_cons_of_mem _ hmem, hrest⟩

/-- **What an import is bound to.**  A service that it asks for, of the provider it names. -/
theorem suits_of_validate {i : Import} {source : Option Plugin} {service : Service}
    (h : i.validate c source = .bound service) :
    ∃ provider, source = some provider ∧ i.Suits c provider service := by
  cases source with
  | none => cases h
  | some provider =>
      simp only [validate] at h
      split at h
      · obtain ⟨hmem, hkind, haccepts⟩ := scan_eq_bound h
        obtain ⟨hlisted, hname⟩ := List.mem_filter.mp hmem
        exact ⟨provider, rfl, hlisted, by simpa using hname, hkind, haccepts⟩
      · cases h

theorem direct_of_scan {provider : String} {range : Value} {seen : Bool} {services : List Service}
    {reason : Rejection} (h : scan c provider range seen services = .refused reason) :
    reason.status ∈ Status.direct := by
  induction services generalizing seen with
  | nil => cases seen <;> cases h <;> simp [Status.direct]
  | cons first rest ih =>
      unfold scan at h
      split at h
      · cases h
        simp [Status.direct]
      · split at h
        · cases h
        · exact ih h

/-- **Why an import is refused.**  The reason is never the failure of another plugin. -/
theorem direct_of_validate {i : Import} {source : Option Plugin} {reason : Rejection}
    (h : i.validate c source = .refused reason) : reason.status ∈ Status.direct := by
  cases source with
  | none =>
      cases h
      simp [Status.direct]
  | some provider =>
      simp only [validate] at h
      split at h
      · exact direct_of_scan h
      · cases h
        simp [Status.direct]

end Import

end PluginOrder
