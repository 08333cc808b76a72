import PluginOrder.Proofs.Plugin.Binding
import PluginOrder.Proofs.Resolution.Telling
import PluginOrder.Proofs.Session.Rebinding
import PluginOrder.Proofs.Version.Release

/-!
# Pre-releases are opt-in

Where neither loose versions nor pre-releases are admitted, a range that is written without a dash
is satisfied by releases only.  An import is bound to nothing but what satisfies its range, and a
run binds the imports of all registered plugins anew, so after a run none of them is bound to a
pre-release unless its range has a dash in it (`bindsReleases_of_run`).

This holds of resolutions that report a cycle and of rejected plugins as of all others, whatever was
bound before.
-/

namespace PluginOrder

/-- The version of a service is a release. -/
def Service.IsRelease (service : Service) : Prop :=
  ∃ v, Version.read? .strict service.version.toList = some v ∧ v.isPrerelease = false

/-- The range of an import is written without a dash. -/
def Import.Dashless (i : Import) : Prop :=
  ∀ range, i.versionRange = .text range → '-' ∉ range.toList

/-- The imports of a plugin that are written without a dash are bound to releases or to nothing. -/
def Plugin.BindsReleases (p : Plugin) : Prop :=
  ∀ i ∈ p.imports, i.Dashless → ∀ service, i.target = some service → service.IsRelease

variable {c : Config}

theorem Import.isRelease_of_validate (hloose : c.looseVersions = false)
    (hpre : c.includePrerelease = false) {i : Import} (hi : i.Dashless) {source : Option Plugin}
    {service : Service} (h : i.validate c source = .bound service) : service.IsRelease := by
  obtain ⟨provider, -, hsuits⟩ := suits_of_validate h
  have haccepted := hsuits.accepted
  have hdialect : c.dialect = .strict := by
    rw [Config.dialect, hloose]
    rfl
  -- only a text can be a range
  cases hrange : i.versionRange with
  | text range =>
      rw [hrange, Config.accepts, hdialect, hpre] at haccepted
      exact release_of_satisfies (hi range hrange) haccepted
  | _ =>
      rw [hrange] at haccepted
      cases haccepted

/-- A plugin that is bound anew binds no pre-release unasked, whatever is in the catalogue. -/
theorem Catalog.bindsReleases_rebindPlugin (hloose : c.looseVersions = false)
    (hpre : c.includePrerelease = false) (catalog : Catalog) (p : Plugin) :
    (catalog.rebindPlugin c p).BindsReleases := by
  intro i hi hdashless service htarget
  rw [target_of_mem_rebindPlugin hi] at htarget
  have hbound := Outcome.eq_bound_of_target? htarget
  exact Import.isRelease_of_validate hloose hpre hdashless hbound

theorem Catalog.bindsReleases_of_get?_rebind (hloose : c.looseVersions = false)
    (hpre : c.includePrerelease = false) {catalog : Catalog} {key : String} {p : Plugin}
    (h : (catalog.rebind c).get? key = some p) : p.BindsReleases := by
  rw [get?_rebind] at h
  obtain ⟨old, -, rfl⟩ := Option.map_eq_some_iff.mp h
  exact bindsReleases_rebindPlugin hloose hpre catalog old

/-- The plugins that a resolution answers with, accepted or rejected, bind no pre-release
unasked. -/
theorem Catalog.bindsReleases_of_resolve (hloose : c.looseVersions = false)
    (hpre : c.includePrerelease = false) {catalog : Catalog} {r : Resolution}
    (h : (catalog.resolve c).result = .ok r) :
    (∀ entry ∈ r.accepted, entry.2.BindsReleases) ∧
      ∀ reject ∈ r.rejects, reject.plugin.BindsReleases := by
  refine ⟨fun entry hentry => ?_, fun reject hreject => ?_⟩
  · have hget := ((mem_accepted_iff h).mp hentry).1
    exact bindsReleases_of_get?_rebind hloose hpre hget
  · obtain ⟨w, -, rfl⟩ := result_ok h
    have hget := (mem_collect_rejects_iff.mp hreject).1
    exact bindsReleases_of_get?_rebind hloose hpre hget

namespace Session

variable {n : Nat}

theorem bindsReleases_writeBack (hloose : c.looseVersions = false)
    (hpre : c.includePrerelease = false) (s : Session n) :
    ∀ handle ∈ s.registry.values,
      ((s.writeBack (s.catalog.rebind c)).store.get handle).BindsReleases := by
  intro handle hregistered
  have hget := (get_writeBack c s handle).resolve_right fun hother => hother.2 hregistered
  rw [hget]
  exact s.catalog.bindsReleases_rebindPlugin hloose hpre _

/-- **Pre-releases are opt-in.**  After a run, whether it returns or reports a cycle, the registered
plugins have no import bound to a pre-release whose range is written without a dash, nor have the
plugins that are answered. -/
theorem bindsReleases_of_run (hloose : c.looseVersions = false) (hpre : c.includePrerelease = false)
    (s : Session n) {step : Step n} (hstep : step.isRun = true) :
    (∀ handle ∈ s.registry.values, ((s.take c step).session.store.get handle).BindsReleases) ∧
      ∀ r, (s.take c step).answer.toOption = some (.resolution r) →
        (∀ entry ∈ r.accepted, entry.2.BindsReleases) ∧
          ∀ reject ∈ r.rejects, reject.plugin.BindsReleases := by
  have hstore := bindsReleases_writeBack hloose hpre s
  cases step with
  | graph =>
      refine ⟨?_, fun r hr => ?_⟩
      · simpa only [take, Catalog.catalog_buildGraph] using hstore
      · cases hr
  | resolve =>
      refine ⟨?_, fun r hr => ?_⟩
      · simpa only [take, Catalog.catalog_resolve] using hstore
      · have hresult : (s.catalog.resolve c).result = .ok r := by
          simp only [take] at hr
          split at hr
          · rename_i resolution hanswer
            cases hr
            exact (Run.answer_eq_ok_iff.mp hanswer).1
          · cases hr
        exact Catalog.bindsReleases_of_resolve hloose hpre hresult
  | _ => cases hstep

/-- A mill with a pre-release in front, and a bakery that asks for one of its two kinds of flour
only. -/
def trade : Session 2 where
  store := #v[
    ⟨"mill", none, [⟨"flour", "2.1.0-rc.1", .service, "service"⟩,
      ⟨"flour", "2.0.5+a-b", .service, "service"⟩], []⟩,
    ⟨"bakery", none, [], [⟨"mill", "flour", "bread", .text ">=1.0 <2.x || ^2", none⟩,
      ⟨"mill", "flour", "cake", .text ">=2.1.0-rc", none⟩]⟩]
  registry := .ofList [("mill", 0), ("bakery", 1)]

theorem bindsReleases_of_run_trade :
    (1 : Fin 2) ∈ trade.registry.values ∧
      ∃ i ∈ ((trade.take .default .resolve).session.store.get 1).imports,
        i.Dashless ∧ i.target = some ⟨"flour", "2.0.5+a-b", .service, "service"⟩ ∧
          ∀ service, i.target = some service → service.IsRelease := by
  have hrun : (Step.resolve : Step 2).isRun = true := rfl
  obtain ⟨hstore, -⟩ := bindsReleases_of_run (c := .default) rfl rfl trade hrun
  have hregistered : (1 : Fin 2) ∈ trade.registry.values := by decide
  have himport : ⟨"mill", "flour", "bread", .text ">=1.0 <2.x || ^2",
      some ⟨"flour", "2.0.5+a-b", .service, "service"⟩⟩ ∈
        ((trade.take .default .resolve).session.store.get 1).imports :=
    List.mem_of_getElem? (i := 0) rfl
  have hdashless : Import.Dashless ⟨"mill", "flour", "bread", .text ">=1.0 <2.x || ^2",
      some ⟨"flour", "2.0.5+a-b", .service, "service"⟩⟩ := by
    intro range hrange
    cases hrange
    decide
  exact ⟨hregistered, _, himport, hdashless, rfl, hstore 1 hregistered _ himport hdashless⟩

/-- A pre-release is bound where the range asks for one. -/
example :
    ((trade.take .default .resolve).session.store.get 1).imports.map (·.target.map (·.version)) =
      [some "2.0.5+a-b", some "2.1.0-rc.1"] := by
  decide +kernel

end Session

end PluginOrder
