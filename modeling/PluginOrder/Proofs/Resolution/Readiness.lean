import PluginOrder.Proofs.Plugin.Binding
import PluginOrder.Proofs.Resolution.Outcome

/-!
# Starting plugins in the order of a resolution

A resolution says in which order to start the plugins that it accepts, and leaves their imports
bound.  Order and bindings agree: when the turn of a plugin comes, whatever it imports was started
before, and each import is bound to a service that its provider offers and that suits it.

The bindings were written when the graph was built, from the same outcomes that its edges hold.  An
accepted plugin is not broken, so all its imports are served and none of their providers is broken;
the providers are therefore accepted as well, and `lt_of_asks` places them.
-/

namespace PluginOrder.Catalog

variable {c : Config} {catalog : Catalog} {r : Resolution}

/-- An import that is served is bound to a service that suits it. -/
theorem Serves.target {i : Import} (h : catalog.Serves c i) :
    ∃ provider service, catalog.get? i.sourcePlugin = some provider ∧
      i.Suits c provider service ∧ (catalog.rebindImport c i).target = some service := by
  obtain ⟨service, hbound⟩ := Import.eq_bound_of_isValid h
  obtain ⟨provider, hprovider, hsuits⟩ := Import.suits_of_validate hbound
  refine ⟨provider, service, hprovider, hsuits, ?_⟩
  simp only [rebindImport, outcome, hbound, Outcome.target?]

/-- The imports of an accepted plugin are served, and their providers are accepted. -/
theorem accepted_of_import (h : (catalog.resolve c).result = .ok r) {key : String} {p : Plugin}
    (hp : catalog.get? key = some p) (hsound : ¬ catalog.Broken c key) {i : Import}
    (hi : i ∈ p.imports) :
    ∃ provider service, (i.sourcePlugin, catalog.rebindPlugin c provider) ∈ r.accepted ∧
      i.Suits c provider service ∧ (catalog.rebindImport c i).target = some service := by
  have hserves : catalog.Serves c i := by
    by_contra hfails
    exact hsound (.failing hp hi hfails)
  obtain ⟨provider, service, hprovider, hsuits, htarget⟩ := hserves.target
  refine ⟨provider, service, (mem_accepted_iff h).mpr ⟨?_, ?_⟩, hsuits, htarget⟩
  · rw [get?_rebind, hprovider, Option.map_some]
  · exact fun hbroken => hsound (.cascade hp hi hbroken)

/-- **An accepted plugin is ready at its turn.**  It is a registered plugin with its imports
bound; and for each import, the plugin registered under its source stands at an earlier position,
and the import is bound to a service of that plugin that has the wanted name, is no re-export, and
has a version that satisfies the range. -/
theorem ready_of_accepted (h : (catalog.resolve c).result = .ok r) {n : Nat} {key : String}
    {p : Plugin} (hn : r.accepted[n]? = some (key, p)) :
    (∃ registered, catalog.get? key = some registered ∧ p = catalog.rebindPlugin c registered) ∧
      (catalog.resolve c).catalog.get? key = some p ∧
      ∀ i ∈ p.imports, ∃ m < n, ∃ provider, r.accepted[m]? = some (i.sourcePlugin, provider) ∧
        (catalog.resolve c).catalog.get? i.sourcePlugin = some provider ∧
        ∃ service, i.target = some service ∧ i.Suits c provider service := by
  obtain ⟨hkey, hsound⟩ := (mem_accepted_iff h).mp (List.mem_of_getElem? hn)
  have hrebind := hkey
  rw [get?_rebind] at hrebind
  obtain ⟨registered, hregistered, rfl⟩ := Option.map_eq_some_iff.mp hrebind
  rw [catalog_resolve]
  refine ⟨⟨registered, hregistered, rfl⟩, hkey, fun i hi => ?_⟩
  obtain ⟨before, hbefore, rfl⟩ := List.mem_map.mp hi
  obtain ⟨provider, service, hmem, hsuits, htarget⟩ :=
    accepted_of_import h hregistered hsound hbefore
  obtain ⟨m, hm⟩ := List.mem_iff_getElem?.mp hmem
  have hlt : m < n := lt_of_asks h hn hm ⟨registered, hregistered, before, hbefore, rfl⟩
  refine ⟨m, hlt, catalog.rebindPlugin c provider, hm, ((mem_accepted_iff h).mp hmem).1, service,
    htarget, ?_⟩
  -- binding imports anew changes neither services nor what an import asks for
  exact ⟨hsuits.listed, hsuits.name_eq, hsuits.kind_eq, hsuits.accepted⟩

/-- A catalogue that is registered the wrong way round, with a service in two versions. -/
def layered : Catalog where
  entries := [
    ("shop", ⟨"shop", none, [],
      [⟨"auth", "login", "login", .text "^2.0.0", none⟩,
        ⟨"core", "log", "log", .text "*", none⟩]⟩),
    ("auth", ⟨"auth", none,
      [⟨"login", "1.4.0", .service, "service"⟩, ⟨"login", "2.1.0", .service, "service"⟩],
      [⟨"core", "log", "log", .text "~1.0.0", none⟩]⟩),
    ("core", ⟨"core", none, [⟨"log", "1.0.3", .service, "service"⟩], []⟩)]
  nodup_keys := by decide

theorem ready_of_accepted_layered :
    ∃ r p, (layered.resolve .default).result = .ok r ∧
      r.accepted.map Prod.fst = ["core", "auth", "shop"] ∧ r.accepted[2]? = some ("shop", p) ∧
      ∀ i ∈ p.imports, ∃ m < 2, ∃ provider, r.accepted[m]? = some (i.sourcePlugin, provider) ∧
        (layered.resolve .default).catalog.get? i.sourcePlugin = some provider ∧
        ∃ service, i.target = some service ∧ i.Suits .default provider service :=
  ⟨_, _, rfl, rfl, rfl, (ready_of_accepted rfl rfl).2.2⟩

end PluginOrder.Catalog
