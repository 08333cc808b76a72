import PluginOrder.Proofs.Resolution.Outcome
import Mathlib.Order.Bounds.Basic

/-!
# Which plugins are accepted

A set of keys is self-sufficient if its plugins are registered and get all that they import from
plugins of the set.  Self-sufficient sets are closed under unions, so there is a largest one, and
it is what a resolution accepts.  Nothing about the order of the catalogue or of the walk enters
this description.

A plugin of a self-sufficient set is not broken, by induction on how it would be, and the plugins
that are not broken are a self-sufficient set.
-/

namespace PluginOrder.Catalog

/-- The plugins of a set of keys are registered, and their imports are served by plugins of the
set. -/
def SelfSufficient (c : Config) (catalog : Catalog) (S : Set String) : Prop :=
  ∀ key ∈ S, ∃ p, catalog.get? key = some p ∧
    ∀ i ∈ p.imports, i.sourcePlugin ∈ S ∧ catalog.Serves c i

variable {c : Config} {catalog : Catalog}

/-- A plugin of a self-sufficient set is not broken. -/
theorem SelfSufficient.not_broken {S : Set String} (hS : catalog.SelfSufficient c S)
    {key : String} (hbroken : catalog.Broken c key) : key ∉ S := by
  induction hbroken with
  | @failing key p i hp hi hfails =>
      intro hmem
      obtain ⟨p', hp', himports⟩ := hS key hmem
      rw [hp] at hp'
      cases hp'
      exact hfails (himports i hi).2
  | @cascade key p i hp hi _ ih =>
      intro hmem
      obtain ⟨p', hp', himports⟩ := hS key hmem
      rw [hp] at hp'
      cases hp'
      exact ih (himports i hi).1

/-- The registered plugins that are not broken are a self-sufficient set. -/
theorem selfSufficient_not_broken (c : Config) (catalog : Catalog) :
    catalog.SelfSufficient c {key | key ∈ catalog.keys ∧ ¬ catalog.Broken c key} := by
  rintro key ⟨hkey, hsound⟩
  obtain ⟨p, hp⟩ := Ledger.mem_keys_iff.mp hkey
  refine ⟨p, hp, fun i hi => ?_⟩
  have hserves : catalog.Serves c i := by
    by_contra hfails
    exact hsound (.failing hp hi hfails)
  exact ⟨⟨hserves.mem_keys, fun hsource => hsound (.cascade hp hi hsource)⟩, hserves⟩

/-- What a plugin of a self-sufficient set imports from, directly or not, is in the set. -/
theorem SelfSufficient.mem_of_asks {S : Set String} (hS : catalog.SelfSufficient c S)
    {key source : String} (hkey : key ∈ S) (hasks : Relation.ReflTransGen catalog.Asks key source) :
    source ∈ S := by
  induction hasks with
  | refl => exact hkey
  | tail _ hstep ih =>
      obtain ⟨p, hp, i, hi, rfl⟩ := hstep
      obtain ⟨p', hp', himports⟩ := hS _ ih
      rw [hp] at hp'
      cases hp'
      exact (himports i hi).1

/-- **What a resolution accepts is the largest self-sufficient set of keys.**  A plugin is only
rejected if it is in no such set, and all that an accepted plugin imports from, directly or not,
is registered and has imports that are served. -/
theorem isGreatest_accepted {r : Resolution} (h : (catalog.resolve c).result = .ok r) :
    IsGreatest {S | catalog.SelfSufficient c S} {key | key ∈ r.accepted.map Prod.fst} ∧
      (∀ key, key ∈ r.rejected ↔
        key ∈ catalog.keys ∧ ∀ S, catalog.SelfSufficient c S → key ∉ S) ∧
      ∀ key ∈ r.accepted.map Prod.fst, ∀ source, Relation.ReflTransGen catalog.Asks key source →
        ∃ p, catalog.get? source = some p ∧ ∀ i ∈ p.imports, catalog.Serves c i := by
  have haccepted : {key | key ∈ r.accepted.map Prod.fst} =
      {key | key ∈ catalog.keys ∧ ¬ catalog.Broken c key} :=
    Set.ext fun _ => mem_accepted_keys_iff h
  have hself : catalog.SelfSufficient c {key | key ∈ r.accepted.map Prod.fst} := by
    rw [haccepted]
    exact selfSufficient_not_broken c catalog
  refine ⟨⟨hself, fun S hS key hmem => ?_⟩, fun key => ?_, fun key hkey source hasks => ?_⟩
  · rw [haccepted]
    obtain ⟨p, hp, _⟩ := hS key hmem
    exact ⟨Ledger.mem_keys_iff.mpr ⟨p, hp⟩, fun hbroken => hS.not_broken hbroken hmem⟩
  · rw [mem_rejected_iff h]
    refine and_congr_right fun hkey => ⟨fun hbroken S hS => hS.not_broken hbroken, fun hnone => ?_⟩
    by_contra hsound
    exact hnone _ (selfSufficient_not_broken c catalog) ⟨hkey, hsound⟩
  · obtain ⟨p, hp, himports⟩ := hself source (hself.mem_of_asks hkey hasks)
    exact ⟨p, hp, fun i hi => (himports i hi).2⟩

/-- A catalogue whose plugin `b` has a good and a bad import from the same provider, so that `b`
and `c` are left as valid before they are downgraded.  Nobody has registered `e`. -/
def downgrading : Catalog where
  entries := [
    ("a", ⟨"a", none, [⟨"s", "1.2.0", .service, "service"⟩], []⟩),
    ("b", ⟨"b", none, [⟨"s", "1.0.0", .service, "service"⟩],
      [⟨"a", "s", "s", .text "^1.0.0", none⟩, ⟨"a", "t", "t", .text "^1.0.0", none⟩]⟩),
    ("c", ⟨"c", none, [], [⟨"b", "s", "s", .text "*", none⟩]⟩),
    ("d", ⟨"d", none, [], [⟨"a", "s", "s", .text "~1.2.0", none⟩]⟩),
    ("f", ⟨"f", none, [], [⟨"e", "s", "s", .text "*", none⟩]⟩)]
  nodup_keys := by decide

theorem isGreatest_accepted_downgrading :
    ∃ r, (downgrading.resolve .default).result = .ok r ∧
      r.accepted.map Prod.fst = ["a", "d"] ∧ r.rejected = ["b", "c", "f"] ∧
      IsGreatest {S | downgrading.SelfSufficient .default S}
        {key | key ∈ r.accepted.map Prod.fst} :=
  ⟨_, rfl, rfl, rfl, (isGreatest_accepted rfl).1⟩

end PluginOrder.Catalog
