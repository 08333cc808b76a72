import PluginOrder.Proofs.Resolution.Acceptance
import PluginOrder.Proofs.Resolution.Cycle
import PluginOrder.Proofs.Resolution.Partition
import PluginOrder.Proofs.Session.Memory

/-!
# What is accepted stands on its own

Take the plugins that a resolution accepts, and leave out the rejected ones and all that is only
asked for.  The graph of what is left is another one, and so is every walk over it, all the more if
the plugins are registered in another order.  Still all of them are accepted, with the same bindings
(`resolve_accepted`).

This holds of every self-sufficient set of keys.  An import of such a plugin is looked up in the
set, where it finds what it found before (`Restricts.outcome_eq`), so the set is self-sufficient on
its own (`Restricts.selfSufficient`) and none of it is broken.  And whoever imports from whom, did
so before, so that no cycle comes up (`Restricts.asks`).
-/

namespace PluginOrder.Catalog

/-- A catalogue holds, under the given keys and in whatever order, what another one holds there. -/
structure Restricts (part catalog : Catalog) (keys : List String) : Prop where
  keys_perm : part.keys.Perm keys
  get?_eq : ∀ key ∈ keys, part.get? key = catalog.get? key

variable {c : Config} {part catalog : Catalog} {r : Resolution}

theorem mem_keys_of_get?_rebind {key : String} {p : Plugin}
    (hp : (catalog.rebind c).get? key = some p) : key ∈ catalog.keys := by
  rw [← keys_rebind c]
  exact Ledger.mem_keys_iff.mpr ⟨p, hp⟩

/-- What a resolution accepts is self-sufficient. -/
theorem selfSufficient_accepted (h : (catalog.resolve c).result = .ok r) :
    catalog.SelfSufficient c {key | key ∈ r.accepted.map Prod.fst} := by
  have haccepted : {key | key ∈ r.accepted.map Prod.fst} =
      {key | key ∈ catalog.keys ∧ ¬ catalog.Broken c key} :=
    Set.ext fun _ => mem_accepted_keys_iff h
  rw [haccepted]
  exact selfSufficient_not_broken c catalog

namespace Restricts

variable {keys : List String} (h : Restricts part catalog keys)

include h

theorem mem_of_get? {key : String} {p : Plugin} (hp : part.get? key = some p) : key ∈ keys :=
  h.keys_perm.mem_iff.mp (Ledger.mem_keys_iff.mpr ⟨p, hp⟩)

theorem get?_of_get? {key : String} {p : Plugin} (hp : part.get? key = some p) :
    catalog.get? key = some p :=
  (h.get?_eq key (h.mem_of_get? hp)).symm.trans hp

/-- Whoever imports from others in the part does so in the whole. -/
theorem asks {key source : String} (hasks : part.Asks key source) : catalog.Asks key source := by
  obtain ⟨p, hp, himport⟩ := hasks
  exact ⟨p, h.get?_of_get? hp, himport⟩

variable (hself : catalog.SelfSufficient c {key | key ∈ keys})

include hself

/-- The provider of an import is in the part, and it is the same plugin there. -/
theorem outcome_eq {key : String} {p : Plugin} (hp : part.get? key = some p) {i : Import}
    (hi : i ∈ p.imports) : part.outcome c i = catalog.outcome c i := by
  obtain ⟨p', hp', himports⟩ := hself key (h.mem_of_get? hp)
  rw [h.get?_of_get? hp] at hp'
  cases hp'
  rw [outcome, outcome, h.get?_eq _ (himports i hi).1]

theorem selfSufficient : part.SelfSufficient c {key | key ∈ keys} := by
  intro key hkey
  obtain ⟨p, hp, himports⟩ := hself key hkey
  have hpart : part.get? key = some p := (h.get?_eq key hkey).trans hp
  refine ⟨p, hpart, fun i hi => ⟨(himports i hi).1, ?_⟩⟩
  have hserves : (catalog.outcome c i).isValid = true := (himports i hi).2
  rwa [← h.outcome_eq hself hpart hi] at hserves

theorem not_broken {key : String} (hkey : key ∈ part.keys) : ¬ part.Broken c key :=
  fun hbroken => (h.selfSufficient hself).not_broken hbroken (h.keys_perm.mem_iff.mp hkey)

theorem get?_rebind {key : String} (hkey : key ∈ keys) :
    (part.rebind c).get? key = (catalog.rebind c).get? key := by
  rw [Catalog.get?_rebind, Catalog.get?_rebind, ← h.get?_eq key hkey]
  cases hp : part.get? key with
  | none => rfl
  | some p =>
      have himports : p.imports.map (part.rebindImport c) =
          p.imports.map (catalog.rebindImport c) := by
        refine List.map_congr_left fun i hi => ?_
        rw [rebindImport, rebindImport, h.outcome_eq hself hp hi]
      simp only [Option.map_some, rebindPlugin, himports]

end Restricts

/-! ## Resolving a part that is accepted -/

section Accepted

variable (h : (catalog.resolve c).result = .ok r)
  (hpart : Restricts part catalog (r.accepted.map Prod.fst))

include h hpart

variable {r' : Resolution} (hr' : (part.resolve c).result = .ok r')

include hr'

theorem rejects_of_restricts : r'.rejects = [] := by
  have hrejected : r'.rejected = [] := by
    refine List.eq_nil_iff_forall_not_mem.mpr fun key hkey => ?_
    obtain ⟨hmem, hbroken⟩ := (mem_rejected_iff hr').mp hkey
    exact hpart.not_broken (selfSufficient_accepted h) hmem hbroken
  exact List.map_eq_nil_iff.mp hrejected

theorem accepted_of_restricts : r'.accepted.Perm r.accepted := by
  have hself := selfSufficient_accepted h
  have hnodup' : r'.accepted.Nodup := .of_map _ (nodup_accepted hr')
  have hnodup : r.accepted.Nodup := .of_map _ (nodup_accepted h)
  refine (List.perm_ext_iff_of_nodup hnodup' hnodup).mpr fun ⟨key, p⟩ => ?_
  rw [mem_accepted_iff hr', mem_accepted_iff h]
  -- a key that is not accepted is on neither side: the part lacks it, and the whole lacks or
  -- rejects it
  by_cases hkey : key ∈ r.accepted.map Prod.fst
  · have hsound := ((mem_accepted_keys_iff h).mp hkey).2
    have hsound' := hpart.not_broken hself (hpart.keys_perm.mem_iff.mpr hkey)
    rw [hpart.get?_rebind hself hkey]
    simp only [hsound, hsound']
  · constructor
    · rintro ⟨hp, _⟩
      exact absurd (hpart.keys_perm.mem_iff.mp (mem_keys_of_get?_rebind hp)) hkey
    · rintro ⟨hp, hsound⟩
      exact absurd ((mem_accepted_keys_iff h).mpr ⟨mem_keys_of_get?_rebind hp, hsound⟩) hkey

end Accepted

/-- **What is accepted stands on its own.**  A catalogue of only the accepted plugins, in any order
and whatever their imports are bound to, is resolved without a cycle and without rejects: the same
plugins are accepted, and their imports are bound to the same services. -/
theorem resolve_accepted (h : (catalog.resolve c).result = .ok r)
    (hpart : Restricts part.unbound catalog.unbound (r.accepted.map Prod.fst)) :
    ∃ r', (part.resolve c).result = .ok r' ∧ r'.accepted.Perm r.accepted ∧ r'.rejects = [] ∧
      ∀ key ∈ r.accepted.map Prod.fst,
        (part.resolve c).catalog.get? key = (catalog.resolve c).catalog.get? key := by
  -- bindings are not read, so both sides may be taken without them
  rw [← resolve_unbound] at h
  rw [← resolve_unbound c part, ← resolve_unbound c catalog]
  obtain ⟨r', hr'⟩ := exists_ok_of_asks h hpart.asks
  refine ⟨r', hr', accepted_of_restricts h hpart hr', rejects_of_restricts h hpart hr', ?_⟩
  intro key hkey
  rw [catalog_resolve, catalog_resolve]
  exact hpart.get?_rebind (selfSufficient_accepted h) hkey

/-- A catalogue in which `cart` is let down by `lantern`, which asks for what nobody has registered,
and `awning` by a version. -/
def market : Catalog where
  entries := [
    ("cart", ⟨"cart", none, [],
      [⟨"stall", "s", "s", .text "*", none⟩, ⟨"lantern", "s", "s", .text "*", none⟩]⟩),
    ("lantern", ⟨"lantern", none, [⟨"s", "1.0.0", .service, "service"⟩],
      [⟨"oil", "s", "s", .text "*", none⟩]⟩),
    ("scale", ⟨"scale", none, [⟨"s", "1.2.0", .service, "service"⟩], []⟩),
    ("stall", ⟨"stall", none, [⟨"s", "1.0.0", .service, "service"⟩],
      [⟨"scale", "s", "s", .text "^1.1.0", none⟩]⟩),
    ("awning", ⟨"awning", none, [], [⟨"stall", "s", "s", .text "^2.0.0", none⟩]⟩)]
  nodup_keys := by decide

/-- What is left of it, importers first, with a binding that nothing accounts for. -/
def openMarket : Catalog where
  entries := [
    ("stall", ⟨"stall", none, [⟨"s", "1.0.0", .service, "service"⟩],
      [⟨"scale", "s", "s", .text "^1.1.0", some ⟨"s", "7.0.0", .service, "service"⟩⟩]⟩),
    ("scale", ⟨"scale", none, [⟨"s", "1.2.0", .service, "service"⟩], []⟩)]
  nodup_keys := by decide

theorem resolve_accepted_market :
    ∃ r r', (market.resolve .default).result = .ok r ∧ r.rejected = ["cart", "lantern", "awning"] ∧
      Restricts openMarket.unbound market.unbound (r.accepted.map Prod.fst) ∧
      (openMarket.resolve .default).result = .ok r' ∧ r'.accepted.Perm r.accepted ∧
      r'.rejects = [] ∧ r'.order = ["scale", "stall"] := by
  have hpart : Restricts openMarket.unbound market.unbound ["scale", "stall"] := by
    refine ⟨by decide, fun key hkey => ?_⟩
    rcases List.mem_pair.mp hkey with rfl | rfl <;> rfl
  have hmarket : ∃ r, (market.resolve .default).result = .ok r ∧
      r.accepted.map Prod.fst = ["scale", "stall"] ∧ r.rejected = ["cart", "lantern", "awning"] :=
    ⟨_, rfl, rfl, rfl⟩
  obtain ⟨r, hr, haccepted, hrejected⟩ := hmarket
  rw [← haccepted] at hpart
  obtain ⟨r', hr', hperm, hrejects, _⟩ := resolve_accepted hr hpart
  refine ⟨r, r', hr, hrejected, hpart, hr', hperm, hrejects, ?_⟩
  cases hr'
  rfl

end PluginOrder.Catalog
