import PluginOrder.Proofs.Plugin.Decision

/-!
# How an import is settled

The rule by which an import is matched with its provider, apart from the loop that does it.  The
provider must be there and the range must be one.  Then the services of the provider are taken in
their order, and those of another name, and those whose version does not satisfy the range, are
passed over.  The first service that is not passed over settles the import: for it, or against it if
the service is a re-export.  If there is no such service, it matters whether there was one of the
wanted name at all.

`Settled` says so case by case, each case with the place of the service that settles the import.
Matching an import comes to exactly what the rule says (`settled_iff`).
-/

namespace PluginOrder

namespace Import

/-- A service does not settle an import: it has another name, or it is a real service whose version
does not satisfy the range. -/
def PassesOver (c : Config) (i : Import) (service : Service) : Prop :=
  service.name = i.sourceName →
    service.kind = .service ∧ c.accepts service.version i.versionRange = false

/-- How an import is settled, with the provider if it is registered. -/
inductive Settled (c : Config) (i : Import) : Option Plugin → Outcome → Prop
  | unregistered :
      Settled c i none (.refused ⟨.requiredPluginNotFound, i.sourcePlugin, none, .null⟩)
  | noRange {provider : Plugin} (hrange : c.isRange i.versionRange = false) :
      Settled c i (some provider)
        (.refused ⟨.invalidRequiredVersionRange, provider.identifier, none, i.versionRange⟩)
  | bound {provider : Plugin} {before after : List Service} {service : Service}
      (hrange : c.isRange i.versionRange = true)
      (hservices : provider.services = before ++ service :: after)
      (hbefore : ∀ other ∈ before, i.PassesOver c other) (hname : service.name = i.sourceName)
      (hkind : service.kind = .service)
      (haccepts : c.accepts service.version i.versionRange = true) :
      Settled c i (some provider) (.bound service)
  | reexported {provider : Plugin} {before after : List Service} {service : Service}
      (hrange : c.isRange i.versionRange = true)
      (hservices : provider.services = before ++ service :: after)
      (hbefore : ∀ other ∈ before, i.PassesOver c other) (hname : service.name = i.sourceName)
      (hkind : service.kind = .reexport) :
      Settled c i (some provider)
        (.refused ⟨.importedServiceIsAnImport, provider.identifier, some service.name, .null⟩)
  | mismatch {provider : Plugin} {service : Service} (hrange : c.isRange i.versionRange = true)
      (hall : ∀ other ∈ provider.services, i.PassesOver c other)
      (hservice : service ∈ provider.services) (hname : service.name = i.sourceName) :
      Settled c i (some provider)
        (.refused ⟨.requiredServiceVersionMismatch, provider.identifier, none, i.versionRange⟩)
  | notFound {provider : Plugin} (hrange : c.isRange i.versionRange = true)
      (hnone : ∀ other ∈ provider.services, other.name ≠ i.sourceName) :
      Settled c i (some provider)
        (.refused ⟨.requiredServiceNotFound, provider.identifier, none, .null⟩)

variable {c : Config} {i : Import} {provider : Plugin} {service : Service} {source : Option Plugin}
  {outcome : Outcome}

theorem isImport_iff : service.isImport = true ↔ service.kind = .reexport := by
  simp [Service.isImport]

theorem isImport_eq_false_iff : service.isImport = false ↔ service.kind = .service := by
  cases h : service.kind <;> simp [Service.isImport, h]

theorem passesOver_iff : i.PassesOver c service ↔ i.settledBy c service = false := by
  simp only [PassesOver, settledBy, Bool.and_eq_false_imp, Bool.or_eq_false_iff, beq_iff_eq,
    isImport_eq_false_iff]

theorem settledBy_iff : i.settledBy c service = true ↔
    service.name = i.sourceName ∧
      (service.kind = .reexport ∨ c.accepts service.version i.versionRange = true) := by
  simp only [settledBy, Bool.and_eq_true, Bool.or_eq_true, beq_iff_eq, isImport_iff]

/-- With a range, the first service that settles the import decides, and else whether there is one
of the wanted name. -/
theorem validate_of_isRange (hrange : c.isRange i.versionRange = true) :
    i.validate c (some provider) =
      match provider.services.find? (i.settledBy c) with
      | some service =>
        if service.isImport then
          .refused ⟨.importedServiceIsAnImport, provider.identifier, some service.name, .null⟩
        else .bound service
      | none => .refused (if (provider.servicesNamed i.sourceName).isEmpty then
          ⟨.requiredServiceNotFound, provider.identifier, none, .null⟩
        else ⟨.requiredServiceVersionMismatch, provider.identifier, none, i.versionRange⟩) := by
  simp only [validate, hrange, if_true, scan_eq, find?_servicesNamed, Bool.false_or]
  cases provider.services.find? (i.settledBy c) with
  | some service => rfl
  | none => cases (provider.servicesNamed i.sourceName).isEmpty <;> rfl

/-- A service that settles an import is found behind services that are passed over. -/
theorem find?_settledBy_iff :
    provider.services.find? (i.settledBy c) = some service ↔
      i.settledBy c service = true ∧ ∃ before after,
        provider.services = before ++ service :: after ∧
          ∀ other ∈ before, i.PassesOver c other := by
  simp only [List.find?_eq_some_iff_append, passesOver_iff, Bool.not_eq_true']

theorem find?_settledBy_eq_none_iff :
    provider.services.find? (i.settledBy c) = none ↔
      ∀ other ∈ provider.services, i.PassesOver c other := by
  simp only [List.find?_eq_none, passesOver_iff, Bool.not_eq_true]

theorem isEmpty_servicesNamed_iff {name : String} :
    (provider.servicesNamed name).isEmpty = true ↔
      ∀ other ∈ provider.services, other.name ≠ name := by
  simp [Plugin.servicesNamed]

/-- The rule leaves no other outcome than the one that matching comes to. -/
theorem Settled.validate_eq (h : Settled c i source outcome) : i.validate c source = outcome := by
  cases h with
  | unregistered => rfl
  | noRange hrange => simp [validate, hrange]
  | bound hrange hservices hbefore hname hkind haccepts =>
      have hsettled : i.settledBy c _ = true := settledBy_iff.mpr ⟨hname, Or.inr haccepts⟩
      have hfind := find?_settledBy_iff.mpr ⟨hsettled, _, _, hservices, hbefore⟩
      rw [validate_of_isRange hrange, hfind]
      simp [isImport_eq_false_iff.mpr hkind]
  | reexported hrange hservices hbefore hname hkind =>
      have hsettled : i.settledBy c _ = true := settledBy_iff.mpr ⟨hname, Or.inl hkind⟩
      have hfind := find?_settledBy_iff.mpr ⟨hsettled, _, _, hservices, hbefore⟩
      rw [validate_of_isRange hrange, hfind]
      simp [isImport_iff.mpr hkind]
  | mismatch hrange hall hservice hname =>
      have hnamed : ¬ (Plugin.servicesNamed _ i.sourceName).isEmpty = true :=
        fun hempty => isEmpty_servicesNamed_iff.mp hempty _ hservice hname
      rw [validate_of_isRange hrange, find?_settledBy_eq_none_iff.mpr hall]
      simp only [if_neg hnamed]
  | notFound hrange hnone =>
      have hall : ∀ other ∈ _, i.PassesOver c other := fun other hother hname =>
        absurd hname (hnone other hother)
      rw [validate_of_isRange hrange, find?_settledBy_eq_none_iff.mpr hall]
      simp only [if_pos (isEmpty_servicesNamed_iff.mpr hnone)]

/-- The rule settles every import. -/
theorem settled_validate (c : Config) (i : Import) (source : Option Plugin) :
    Settled c i source (i.validate c source) := by
  rcases source with _ | provider
  · exact .unregistered
  by_cases hrange : c.isRange i.versionRange = true
  · rw [validate_of_isRange hrange]
    cases hfind : provider.services.find? (i.settledBy c) with
    | some service =>
        obtain ⟨hsettled, before, after, hservices, hbefore⟩ := find?_settledBy_iff.mp hfind
        obtain ⟨hname, hdecides⟩ := settledBy_iff.mp hsettled
        cases hkind : service.kind with
        | reexport =>
            simp only [isImport_iff.mpr hkind, if_true]
            -- it is the first service that decides, and a re-export decides whatever its version
            exact .reexported hrange hservices hbefore hname hkind
        | service =>
            simp only [isImport_eq_false_iff.mpr hkind, Bool.false_eq_true, if_false]
            have haccepts := hdecides.resolve_left fun hreexport => by
              rw [hkind] at hreexport
              cases hreexport
            exact .bound hrange hservices hbefore hname hkind haccepts
    | none =>
        by_cases hempty : (provider.servicesNamed i.sourceName).isEmpty = true
        · simp only [if_pos hempty]
          exact .notFound hrange (isEmpty_servicesNamed_iff.mp hempty)
        · simp only [if_neg hempty]
          -- a service of this name is there, and none of them decides
          obtain ⟨service, hservice, hname⟩ :
              ∃ service ∈ provider.services, service.name = i.sourceName := by
            simpa [Plugin.servicesNamed] using hempty
          exact .mismatch hrange (find?_settledBy_eq_none_iff.mp hfind) hservice hname
  · rw [Bool.not_eq_true] at hrange
    simp only [validate, hrange]
    exact .noRange hrange

/-- **How an import is settled.**  Matching an import comes to what the rule says and to nothing
else; and it comes either to a service or to a reason, as its validity tells. -/
theorem settled_iff (c : Config) (i : Import) (source : Option Plugin) :
    (∀ outcome, Settled c i source outcome ↔ outcome = i.validate c source) ∧
      ((i.validate c source).isValid = true ↔
        (i.validate c source).target? ≠ none ∧ (i.validate c source).reason? = none) ∧
      ((i.validate c source).isValid = false ↔
        (i.validate c source).target? = none ∧ (i.validate c source).reason? ≠ none) := by
  refine ⟨fun outcome => ⟨fun h => h.validate_eq.symm, ?_⟩, ?_⟩
  · rintro rfl
    exact settled_validate c i source
  · cases i.validate c source with
    | bound service => simp [Outcome.isValid, Outcome.target?, Outcome.reason?]
    | refused reason => simp [Outcome.isValid, Outcome.target?, Outcome.reason?]

end Import

end PluginOrder
