import PluginOrder.Proofs.Plugin.Decision
import PluginOrder.Proofs.Resolution.Comparison

/-!
# Publishing more services

The plugins of a catalogue may add services at the end of their lists, whatever these are.  What
they ask for stays the same, and an import that was served is settled by the same service as before,
so the new catalogue surpasses the old one: it has the same cycles and accepts what was accepted.  A
bound import stays bound to the service at the same position (`resolve_publish`), and only an import
that had been refused may come out differently.
-/

namespace PluginOrder.Catalog

/-- The catalogue in which the plugin under each key has further services at the end of its list. -/
def publish (catalog : Catalog) (more : String → List Service) : Catalog :=
  catalog.mapValues fun key p => p.publish (more key)

/-- An import is settled by the service at a position of its provider's list, and bound to it. -/
def BoundAt (c : Config) (catalog : Catalog) (i : Import) (position : Nat) : Prop :=
  ∃ provider, catalog.get? i.sourcePlugin = some provider ∧
    i.position? c provider = some position ∧ provider.services[position]? = i.target

variable {c : Config} {catalog : Catalog} {i : Import} (more : String → List Service)

theorem get?_publish (key : String) :
    (catalog.publish more).get? key = (catalog.get? key).map fun p => p.publish (more key) :=
  Ledger.get?_mapValues _ catalog key

/-- An import that is bound stays bound to the same service. -/
theorem outcome_publish {service : Service} (h : catalog.outcome c i = .bound service) :
    (catalog.publish more).outcome c i = .bound service := by
  unfold outcome at h ⊢
  obtain ⟨provider, hprovider, _⟩ := Import.suits_of_validate h
  rw [hprovider] at h
  rw [get?_publish, hprovider, Option.map_some]
  exact Import.validate_publish (more i.sourcePlugin) h

theorem surpasses_publish (c : Config) (catalog : Catalog) :
    Surpasses c catalog c (catalog.publish more) where
  alike := by
    intro key
    rw [get?_publish, Option.map_map]
    rfl
  serves := by
    intro key p hp i hi hserves
    obtain ⟨service, hbound⟩ := Import.eq_bound_of_isValid hserves
    have hbound' := outcome_publish more hbound
    unfold Serves
    rw [← outcome, hbound']
    rfl

/-- The binding of an import is at a position of its provider's list. -/
theorem exists_boundAt {service : Service} (h : catalog.outcome c i = .bound service)
    (htarget : i.target = some service) : ∃ position, catalog.BoundAt c i position := by
  unfold outcome at h
  obtain ⟨provider, hprovider, _⟩ := Import.suits_of_validate h
  rw [hprovider] at h
  obtain ⟨position, hposition, hservice⟩ := Import.exists_position?_of_validate h
  exact ⟨position, provider, hprovider, hposition, hservice.trans htarget.symm⟩

theorem BoundAt.publish {position : Nat} {service : Service} (h : catalog.BoundAt c i position)
    (htarget : i.target = some service) : (catalog.publish more).BoundAt c i position := by
  obtain ⟨provider, hprovider, hposition, hservice⟩ := h
  refine ⟨provider.publish (more i.sourcePlugin), ?_, Import.position?_publish _ hposition, ?_⟩
  · rw [get?_publish, hprovider, Option.map_some]
  · rw [htarget] at hservice ⊢
    have hlt := (List.getElem?_eq_some_iff.mp hservice).1
    rw [Plugin.publish, List.getElem?_append_left hlt, hservice]

/-- An import that a resolution binds is one that it also binds once more services are published,
and both times to the service at the same position. -/
theorem exists_publish_of_bound {key : String} {p : Plugin} {n : Nat} {service : Service}
    (hp : (catalog.rebind c).get? key = some p) (hi : p.imports[n]? = some i)
    (htarget : i.target = some service) :
    ∃ p', ((catalog.publish more).rebind c).get? key = some p' ∧ p'.imports[n]? = some i ∧
      ∃ position, catalog.BoundAt c i position ∧ (catalog.publish more).BoundAt c i position := by
  rw [get?_rebind] at hp
  obtain ⟨q, hq, rfl⟩ := Option.map_eq_some_iff.mp hp
  rw [rebindPlugin, List.getElem?_map] at hi
  obtain ⟨j, hj, rfl⟩ := Option.map_eq_some_iff.mp hi
  have hbound : catalog.outcome c j = .bound service := Outcome.eq_bound_of_target? htarget
  have hsame : (catalog.publish more).rebindImport c j = catalog.rebindImport c j := by
    rw [rebindImport, rebindImport, outcome_publish more hbound, hbound]
  obtain ⟨position, hposition⟩ := exists_boundAt (i := catalog.rebindImport c j) hbound htarget
  refine ⟨(catalog.publish more).rebindPlugin c (q.publish (more key)), ?_, ?_, position, hposition,
    hposition.publish more htarget⟩
  · rw [get?_rebind, get?_publish, hq, Option.map_some, Option.map_some]
  · rw [rebindPlugin, List.getElem?_map, Plugin.publish, hj, Option.map_some, hsame]

/-- **Publishing more services takes nothing away.**  A cycle is reported if and only if it was,
what was accepted is accepted, and what an import was bound to is what it is bound to, at the same
position of the same list. -/
theorem resolve_publish (c : Config) (catalog : Catalog) (more : String → List Service) :
    ((∃ ids, ((catalog.publish more).resolve c).result = .error (.cycle ids)) ↔
        ∃ ids, (catalog.resolve c).result = .error (.cycle ids)) ∧
      (∀ r, (catalog.resolve c).result = .ok r →
        ∃ r', ((catalog.publish more).resolve c).result = .ok r' ∧
          r.accepted.map Prod.fst ⊆ r'.accepted.map Prod.fst) ∧
      ∀ (key : String) (p : Plugin) (n : Nat) (i : Import) (service : Service),
        (catalog.resolve c).catalog.get? key = some p → p.imports[n]? = some i →
        i.target = some service →
        ∃ p', ((catalog.publish more).resolve c).catalog.get? key = some p' ∧
          p'.imports[n]? = some i ∧
          ∃ position, catalog.BoundAt c i position ∧
            (catalog.publish more).BoundAt c i position := by
  have hsurpasses := surpasses_publish more c catalog
  refine ⟨hsurpasses.alike.fails_iff, fun r hr => ?_, ?_⟩
  · obtain ⟨r', hr'⟩ := hsurpasses.exists_ok hr
    exact ⟨r', hr', hsurpasses.accepted_subset hr hr'⟩
  · intro key p n i service hp hi htarget
    rw [catalog_resolve] at hp ⊢
    exact exists_publish_of_bound more hp hi htarget

/-- A catalogue in which `critic` asks `shelf` for a version that it does not have yet. -/
def library : Catalog where
  entries := [
    ("reader", ⟨"reader", none, [], [⟨"shelf", "book", "book", .text "^1.0.0", none⟩]⟩),
    ("critic", ⟨"critic", none, [⟨"essay", "1.0.0", .service, "service"⟩],
      [⟨"shelf", "book", "book", .text "^2.0.0", none⟩]⟩),
    ("journal", ⟨"journal", none, [], [⟨"critic", "essay", "essay", .text "*", none⟩]⟩),
    ("shelf", ⟨"shelf", none, [⟨"map", "1.0.0", .service, "service"⟩,
      ⟨"book", "1.2.0", .service, "service"⟩], []⟩)]
  nodup_keys := by decide

/-- What `shelf` adds: newer versions, and a re-export of the same name. -/
def editions (key : String) : List Service :=
  if key = "shelf" then
    [⟨"book", "1.3.0", .service, "service"⟩, ⟨"book", "2.0.0", .service, "service"⟩,
      ⟨"book", "1.0.0", .reexport, "service"⟩]
  else []

theorem resolve_publish_library :
    ∃ r r', (library.resolve .default).result = .ok r ∧
      ((library.publish editions).resolve .default).result = .ok r' ∧
      r.order = ["shelf", "reader"] ∧ r'.order = ["shelf", "critic", "journal", "reader"] ∧
      r.accepted.map Prod.fst ⊆ r'.accepted.map Prod.fst ∧
      ∃ (i : Import) (position : Nat), i.target = some ⟨"book", "1.2.0", .service, "service"⟩ ∧
        library.BoundAt .default i position ∧
        (library.publish editions).BoundAt .default i position := by
  obtain ⟨_, haccepted, hbound⟩ := resolve_publish .default library editions
  obtain ⟨r', hr', hsubset⟩ := haccepted _ rfl
  obtain ⟨_, _, _, position, hbefore, hafter⟩ := hbound "reader" _ 0 _ _ rfl rfl rfl
  refine ⟨_, r', rfl, hr', rfl, ?_, hsubset, _, position, rfl, hbefore, hafter⟩
  cases hr'
  rfl

end PluginOrder.Catalog
