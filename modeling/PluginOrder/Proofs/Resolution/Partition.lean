import PluginOrder.Proofs.Resolution.Outcome

/-!
# Every plugin is decided once

A resolution divides the catalogue: each registered key is that of one accepted plugin or of one
reject, and no other identifier gets into either (`divided_of_resolve`).

The two halves come from different places.  A walk finishes nodes that nobody has registered, and
nodes that it downgrades later on; the accepted plugins are what is left of the finished nodes, and
the rejects are the entries of the catalogue for which the walk holds a reason.  That the two fit
together is not seen from how they are collected.  It holds since both are described by the broken
keys: `mem_accepted_keys_iff` and `mem_rejected_iff`.
-/

namespace PluginOrder.Catalog

variable {c : Config} {catalog : Catalog} {r : Resolution}

/-- A plugin is what the catalogue holds under a key, with its imports bound. -/
def Holds (c : Config) (catalog : Catalog) (key : String) (p : Plugin) : Prop :=
  (catalog.resolve c).catalog.get? key = some p ∧
    ∃ registered, catalog.get? key = some registered ∧ p = catalog.rebindPlugin c registered

/-- How a resolution divides a catalogue. -/
structure Divided (c : Config) (catalog : Catalog) (r : Resolution) : Prop where
  /-- Every registered key is accepted or rejected, once and not both, and no other key is. -/
  perm : (r.accepted.map Prod.fst ++ r.rejected).Perm catalog.keys
  nodup : (r.accepted.map Prod.fst ++ r.rejected).Nodup
  /-- The accepted plugins are those of the catalogue. -/
  accepted : ∀ key p, (key, p) ∈ r.accepted → catalog.Holds c key p
  /-- The rejected plugins are those of the catalogue. -/
  rejects : ∀ reject ∈ r.rejects, catalog.Holds c reject.key reject.plugin
  /-- The rejects are in the order of the catalogue. -/
  sublist : r.rejected.Sublist catalog.keys
  length_add_length : r.accepted.length + r.rejects.length = catalog.size

theorem holds_of_get?_rebind {key : String} {p : Plugin}
    (h : (catalog.rebind c).get? key = some p) : catalog.Holds c key p := by
  refine ⟨by rw [catalog_resolve, h], ?_⟩
  rw [get?_rebind] at h
  obtain ⟨registered, hregistered, rfl⟩ := Option.map_eq_some_iff.mp h
  exact ⟨registered, hregistered, rfl⟩

theorem rejected_sublist (h : (catalog.resolve c).result = .ok r) :
    r.rejected.Sublist catalog.keys := by
  obtain ⟨w, _, rfl⟩ := result_ok h
  rw [rejected_collect, keys_rebind]
  exact List.filter_sublist

theorem nodup_accepted (h : (catalog.resolve c).result = .ok r) :
    (r.accepted.map Prod.fst).Nodup := by
  obtain ⟨w, hsort, rfl⟩ := result_ok h
  exact (sorted_of_sort hsort).nodup.sublist (accept_sublist [] w.finished)

/-- No key is accepted or rejected twice, and none is both. -/
theorem nodup_decided (h : (catalog.resolve c).result = .ok r) :
    (r.accepted.map Prod.fst ++ r.rejected).Nodup := by
  have hrejected : r.rejected.Nodup := catalog.nodup_keys.sublist (rejected_sublist h)
  refine List.nodup_append.mpr ⟨nodup_accepted h, hrejected, ?_⟩
  rintro key haccepted other hother rfl
  exact ((mem_accepted_keys_iff h).mp haccepted).2 ((mem_rejected_iff h).mp hother).2

/-- The keys that are accepted or rejected are the registered ones. -/
theorem mem_decided_iff (h : (catalog.resolve c).result = .ok r) {key : String} :
    key ∈ r.accepted.map Prod.fst ++ r.rejected ↔ key ∈ catalog.keys := by
  rw [List.mem_append, mem_accepted_keys_iff h, mem_rejected_iff h]
  by_cases hbroken : catalog.Broken c key <;> simp [hbroken]

/-- **A resolution divides its catalogue.**  Each registered key belongs to one accepted plugin or
to one reject, which hold the plugin that is registered there, and the rejects are in the order of
registration.  Identifiers that are only asked for are in neither. -/
theorem divided_of_resolve (h : (catalog.resolve c).result = .ok r) : Divided c catalog r := by
  have hperm : (r.accepted.map Prod.fst ++ r.rejected).Perm catalog.keys :=
    (List.perm_ext_iff_of_nodup (nodup_decided h) catalog.nodup_keys).mpr
      fun _ => mem_decided_iff h
  refine ⟨hperm, nodup_decided h, fun key p hmem => ?_, fun reject hreject => ?_,
    rejected_sublist h, ?_⟩
  · exact holds_of_get?_rebind ((mem_accepted_iff h).mp hmem).1
  · obtain ⟨w, _, rfl⟩ := result_ok h
    exact holds_of_get?_rebind (mem_collect_rejects_iff.mp hreject).1
  · simpa [Resolution.rejected, Ledger.keys, Ledger.size] using hperm.length_eq

/-- A catalogue in which `cache` and `app` can be accepted at first, and are downgraded in the
opposite order when the walk comes to `disk`, which nobody has registered. -/
def overruled : Catalog where
  entries := [
    ("cache", ⟨"cache", none, [⟨"s", "1.0.0", .service, "service"⟩],
      [⟨"db", "s", "s", .text "*", none⟩, ⟨"disk", "s", "s", .text "*", none⟩]⟩),
    ("app", ⟨"app", none, [], [⟨"cache", "s", "s", .text "*", none⟩]⟩),
    ("db", ⟨"db", none, [⟨"s", "1.0.0", .service, "service"⟩], []⟩),
    ("log", ⟨"log", none, [], [⟨"db", "s", "s", .text "*", none⟩]⟩)]
  nodup_keys := by decide

theorem divided_of_resolve_overruled :
    ∃ r, (overruled.resolve .default).result = .ok r ∧
      r.accepted.map Prod.fst = ["db", "log"] ∧ r.rejected = ["cache", "app"] ∧
      Divided .default overruled r :=
  ⟨_, rfl, rfl, rfl, divided_of_resolve rfl⟩

end PluginOrder.Catalog
