import PluginOrder.Proofs.Resolution.Cycle

/-!
# Catalogues that import the same

Two catalogues whose plugins import the same have the same cycles, whatever their services and
whatever the configurations under which they are resolved (`ImportsAlike.fails_iff`).  If one of
them serves all imports that the other one serves, then it accepts all that the other one accepts: a
plugin that is broken in it has a failing import at the end of a chain of imports, and that import
fails in the other one too (`Surpasses.accepted_subset`).
-/

namespace PluginOrder.Catalog

/-- Two catalogues have the same keys, and the plugins under a key have the same imports. -/
def ImportsAlike (catalog catalog' : Catalog) : Prop :=
  ∀ key, (catalog'.get? key).map Plugin.imports = (catalog.get? key).map Plugin.imports

variable {c c' : Config} {catalog catalog' : Catalog}

namespace ImportsAlike

theorem symm (h : ImportsAlike catalog catalog') : ImportsAlike catalog' catalog :=
  fun key => (h key).symm

theorem get?_eq_some (h : ImportsAlike catalog catalog') {key : String} {p : Plugin}
    (hp : catalog.get? key = some p) :
    ∃ p', catalog'.get? key = some p' ∧ p'.imports = p.imports := by
  have himports := h key
  rw [hp, Option.map_some] at himports
  exact Option.map_eq_some_iff.mp himports

theorem asks (h : ImportsAlike catalog catalog') {key source : String}
    (hasks : catalog.Asks key source) : catalog'.Asks key source := by
  obtain ⟨p, hp, i, hi, hsource⟩ := hasks
  obtain ⟨p', hp', himports⟩ := h.get?_eq_some hp
  exact ⟨p', hp', i, himports ▸ hi, hsource⟩

theorem mem_keys (h : ImportsAlike catalog catalog') {key : String} (hkey : key ∈ catalog.keys) :
    key ∈ catalog'.keys := by
  obtain ⟨p, hp⟩ := Ledger.mem_keys_iff.mp hkey
  obtain ⟨p', hp', _⟩ := h.get?_eq_some hp
  exact Ledger.mem_keys_iff.mpr ⟨p', hp'⟩

/-- What a resolution reports as a cycle has a counterpart in the other catalogue. -/
theorem fails (h : ImportsAlike catalog catalog')
    (hfails : ∃ ids, (catalog.resolve c).result = .error (.cycle ids)) :
    ∃ ids, (catalog'.resolve c').result = .error (.cycle ids) := by
  obtain ⟨ids, hids⟩ := hfails
  obtain ⟨ids', _, hevidence⟩ := exists_evidence hids
  exact exists_cycle_of_cyclic c' (hevidence.cyclic.mono h.asks)

/-- Catalogues that import the same fail alike. -/
theorem fails_iff (h : ImportsAlike catalog catalog') :
    (∃ ids, (catalog'.resolve c').result = .error (.cycle ids)) ↔
      ∃ ids, (catalog.resolve c).result = .error (.cycle ids) :=
  ⟨h.symm.fails, h.fails⟩

end ImportsAlike

/-- A catalogue under a configuration serves, of what another one imports as well, all that is
served there. -/
structure Surpasses (c : Config) (catalog : Catalog) (c' : Config) (catalog' : Catalog) : Prop where
  alike : ImportsAlike catalog catalog'
  serves : ∀ key p, catalog.get? key = some p → ∀ i ∈ p.imports, catalog.Serves c i →
    catalog'.Serves c' i

namespace Surpasses

variable (h : Surpasses c catalog c' catalog')

include h

/-- A plugin that is broken where more is served is broken where less is served. -/
theorem broken {key : String} (hbroken : catalog'.Broken c' key) : catalog.Broken c key := by
  induction hbroken with
  | @failing key p' i hp' hi hfails =>
      obtain ⟨p, hp, himports⟩ := h.alike.symm.get?_eq_some hp'
      rw [← himports] at hi
      exact .failing hp hi fun hserves => hfails (h.serves key p hp i hi hserves)
  | @cascade key p' i hp' hi _ ih =>
      obtain ⟨p, hp, himports⟩ := h.alike.symm.get?_eq_some hp'
      rw [← himports] at hi
      exact .cascade hp hi ih

theorem exists_ok {r : Resolution} (hr : (catalog.resolve c).result = .ok r) :
    ∃ r', (catalog'.resolve c').result = .ok r' :=
  exists_ok_of_asks hr h.alike.symm.asks

/-- **Where more is served, more is accepted.** -/
theorem accepted_subset {r r' : Resolution} (hr : (catalog.resolve c).result = .ok r)
    (hr' : (catalog'.resolve c').result = .ok r') :
    r.accepted.map Prod.fst ⊆ r'.accepted.map Prod.fst := by
  intro key hkey
  obtain ⟨hmem, hsound⟩ := (mem_accepted_keys_iff hr).mp hkey
  exact (mem_accepted_keys_iff hr').mpr
    ⟨h.alike.mem_keys hmem, fun hbroken => hsound (h.broken hbroken)⟩

end Surpasses

end PluginOrder.Catalog
