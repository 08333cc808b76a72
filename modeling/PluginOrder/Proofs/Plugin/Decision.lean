import PluginOrder.Proofs.Plugin.Binding

/-!
# Which service settles an import

Matching an import goes through the services of the wanted name and stops at the first one that
settles it: a re-export, or a service whose version satisfies the range (`scan_eq`).  So an import
is bound to a service if and only if that is the first one of its provider to settle it, and no
re-export (`validate_eq_bound_iff`).

What stands behind that service does not matter.  A provider may add services at the end of its
list, and whoever was bound to one of its services is bound to the same one (`validate_publish`).

A change of configuration may let a service further ahead settle it, but whoever was bound stays
bound as long as the new configuration accepts the service of the old binding
(`isValid_of_accepts`).
-/

namespace PluginOrder

namespace Import

/-- Whether a service settles an import, be it for the import or against it. -/
def settledBy (c : Config) (i : Import) (service : Service) : Bool :=
  service.name == i.sourceName && (service.isImport || c.accepts service.version i.versionRange)

/-- The position of the service of a provider that settles an import. -/
def position? (c : Config) (i : Import) (provider : Plugin) : Option Nat :=
  provider.services.findIdx? (i.settledBy c)

variable {c : Config} {i : Import} {provider : Plugin} {service : Service}

/-- A scan stops at the first re-export or satisfying version, and else comes to the end. -/
theorem scan_eq (id : String) (range : Value) (seen : Bool) (services : List Service) :
    scan c id range seen services =
      match services.find? fun service => service.isImport || c.accepts service.version range with
      | some service =>
        if service.isImport then .refused ⟨.importedServiceIsAnImport, id, some service.name, .null⟩
        else .bound service
      | none => .refused (if seen || !services.isEmpty then
          ⟨.requiredServiceVersionMismatch, id, none, range⟩
        else ⟨.requiredServiceNotFound, id, none, .null⟩) := by
  induction services generalizing seen with
  | nil => cases seen <;> rfl
  | cons first rest ih =>
      cases himport : first.isImport with
      | true => simp [scan, himport]
      | false =>
          cases haccepts : c.accepts first.version range with
          | true => simp [scan, himport, haccepts]
          | false =>
              have hrest := ih true
              simpa [scan, himport, haccepts] using hrest

variable (c i provider) in
/-- Going through the services of the wanted name is going through all services. -/
theorem find?_servicesNamed :
    (provider.servicesNamed i.sourceName).find?
        (fun service => service.isImport || c.accepts service.version i.versionRange) =
      provider.services.find? (i.settledBy c) := by
  rw [Plugin.servicesNamed, List.find?_filter]
  simp only [Bool.decide_and, Bool.decide_eq_true]
  rfl

/-- **What an import is bound to**, as the first service that settles it. -/
theorem validate_eq_bound_iff :
    i.validate c (some provider) = .bound service ↔
      c.isRange i.versionRange = true ∧ provider.services.find? (i.settledBy c) = some service ∧
        service.isImport = false := by
  cases hrange : c.isRange i.versionRange with
  | false => simp [validate, hrange]
  | true =>
      simp only [validate, hrange, if_true, scan_eq, find?_servicesNamed, true_and]
      cases hfirst : provider.services.find? (i.settledBy c) with
      | none => simp
      | some first =>
          cases himport : first.isImport with
          | true =>
              have hnot : first = service → service.isImport = true := fun heq => heq ▸ himport
              simpa [himport] using hnot
          | false =>
              have hkind : first = service → service.isImport = false := fun heq => heq ▸ himport
              simpa [himport] using hkind

/-- The service that an import is bound to stands at the position that settles it. -/
theorem exists_position?_of_validate (h : i.validate c (some provider) = .bound service) :
    ∃ n, i.position? c provider = some n ∧ provider.services[n]? = some service := by
  obtain ⟨_, hfind, _⟩ := validate_eq_bound_iff.mp h
  rw [List.find?_eq_bind_findIdx?_getElem?] at hfind
  exact Option.bind_eq_some_iff.mp hfind

/-- An import can still be served under a configuration that still accepts what it was bound to.  It
may be bound to another service then, one that stands in front of it. -/
theorem isValid_of_accepts {c' : Config} (h : i.validate c (some provider) = .bound service)
    (hrange : c'.isRange i.versionRange = true)
    (haccepts : c'.accepts service.version i.versionRange = true) :
    (i.validate c' (some provider)).isValid = true := by
  obtain ⟨_, hfind, himport⟩ := validate_eq_bound_iff.mp h
  obtain ⟨hsettled, before, after, hservices, hbefore⟩ := List.find?_eq_some_iff_append.mp hfind
  have hname : (service.name == i.sourceName) = true := (Bool.and_eq_true_iff.mp hsettled).1
  have hsettled' : i.settledBy c' service = true := by
    rw [settledBy, hname, haccepts, Bool.or_true, Bool.and_true]
  obtain ⟨first, hfind', himport'⟩ : ∃ first,
      provider.services.find? (i.settledBy c') = some first ∧ first.isImport = false := by
    rw [hservices, List.find?_append, List.find?_cons_of_pos hsettled']
    cases hfirst : before.find? (i.settledBy c') with
    | none => exact ⟨service, rfl, himport⟩
    | some first =>
        refine ⟨first, rfl, ?_⟩
        -- a re-export in front would have settled the import before
        have hnot := hbefore first (List.mem_of_find?_eq_some hfirst)
        have hfirst' := List.find?_some hfirst
        simp only [settledBy] at hnot hfirst'
        grind
  rw [validate_eq_bound_iff.mpr ⟨hrange, hfind', himport'⟩]
  rfl

end Import

/-- A plugin with further services at the end of its list. -/
def Plugin.publish (p : Plugin) (more : List Service) : Plugin :=
  { p with services := p.services ++ more }

namespace Import

variable {c : Config} {i : Import} {provider : Plugin} {service : Service} (more : List Service)

theorem position?_publish {n : Nat} (h : i.position? c provider = some n) :
    i.position? c (provider.publish more) = some n := by
  unfold position? Plugin.publish at *
  rw [List.findIdx?_append, h, Option.some_or]

/-- **Services at the end of the list change no binding.** -/
theorem validate_publish (h : i.validate c (some provider) = .bound service) :
    i.validate c (some (provider.publish more)) = .bound service := by
  rw [validate_eq_bound_iff] at h ⊢
  obtain ⟨hrange, hfind, himport⟩ := h
  refine ⟨hrange, ?_, himport⟩
  rw [Plugin.publish, List.find?_append, hfind, Option.some_or]

end Import

end PluginOrder
