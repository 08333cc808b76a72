import PluginOrder.Proofs.Plugin.Decision
import PluginOrder.Proofs.Resolution.Comparison
import PluginOrder.Proofs.Version.Admission

/-!
# Admitting pre-releases to a resolution

A resolution that admits pre-releases reports the same cycles, and in most cases it only accepts
more.  An import may be bound to another service then, since a pre-release in front of the old one
settles it, but it is served, unless the old service has a version that its range does not keep
(`resolve_admitting`).  Then all that imports from there is rejected, however little it cares for
pre-releases (`rejected_clockwork`).
-/

namespace PluginOrder.Catalog

/-- Every service that an import is bound to without pre-releases is kept by the range of that
very import. -/
def KeepsBindings (c : Config) (catalog : Catalog) : Prop :=
  ∀ entry ∈ catalog.entries, ∀ i ∈ entry.2.imports,
    ∀ service ∈ (catalog.outcome (c.admitting false) i).target?,
      c.keeps service.version i.versionRange = true

instance (c : Config) (catalog : Catalog) : Decidable (catalog.KeepsBindings c) :=
  inferInstanceAs (Decidable (∀ entry ∈ catalog.entries, ∀ i ∈ entry.2.imports,
    ∀ service ∈ (catalog.outcome (c.admitting false) i).target?,
      c.keeps service.version i.versionRange = true))

variable {c : Config} {catalog : Catalog}

theorem serves_admitting (h : catalog.KeepsBindings c) {key : String} {p : Plugin}
    (hp : catalog.get? key = some p) {i : Import} (hi : i ∈ p.imports)
    (hserves : catalog.Serves (c.admitting false) i) : catalog.Serves (c.admitting true) i := by
  obtain ⟨service, hbound⟩ := Import.eq_bound_of_isValid hserves
  have hkeeps : c.keeps service.version i.versionRange = true := by
    refine h (key, p) (Ledger.get?_eq_some_iff.mp hp) i hi service ?_
    rw [outcome, hbound]
    rfl
  obtain ⟨provider, hprovider, _⟩ := Import.suits_of_validate hbound
  unfold Serves
  rw [hprovider] at hbound ⊢
  -- what a range is does not depend on pre-releases
  have hrange : (c.admitting true).isRange i.versionRange = true :=
    (Import.validate_eq_bound_iff.mp hbound).1
  exact Import.isValid_of_accepts hbound hrange (Config.accepts_of_keeps hkeeps)

/-- **Admitting pre-releases only widens what is accepted**, as long as the ranges keep what they
accept without them.  Whether they do or not, the same catalogues have a cycle. -/
theorem resolve_admitting (c : Config) (catalog : Catalog) :
    ((∃ ids, (catalog.resolve (c.admitting true)).result = .error (.cycle ids)) ↔
        ∃ ids, (catalog.resolve (c.admitting false)).result = .error (.cycle ids)) ∧
      (catalog.KeepsBindings c → ∀ r, (catalog.resolve (c.admitting false)).result = .ok r →
        ∃ r', (catalog.resolve (c.admitting true)).result = .ok r' ∧
          r.accepted.map Prod.fst ⊆ r'.accepted.map Prod.fst) := by
  have halike : ImportsAlike catalog catalog := fun _ => rfl
  refine ⟨halike.fails_iff, fun hkeeps r hr => ?_⟩
  have hsurpasses : Surpasses (c.admitting false) catalog (c.admitting true) catalog :=
    ⟨halike, fun key p hp i hi => serves_admitting hkeeps hp hi⟩
  obtain ⟨r', hr'⟩ := hsurpasses.exists_ok hr
  exact ⟨r', hr', hsurpasses.accepted_subset hr hr'⟩

/-- A catalogue with a pre-release in front of the service that `chart` is bound to without it, and
one that `atlas` cannot do without. -/
def survey : Catalog where
  entries := [
    ("chart", ⟨"chart", none, [], [⟨"map", "grid", "grid", .text "^1.0.0", none⟩,
      ⟨"map", "scale", "scale", .text ">=2.0.0-rc.1", none⟩]⟩),
    ("atlas", ⟨"atlas", none, [], [⟨"map", "tile", "tile", .text "~1.1.0", none⟩]⟩),
    ("map", ⟨"map", none, [⟨"grid", "1.4.0-beta", .service, "service"⟩,
      ⟨"grid", "1.2.0", .service, "service"⟩, ⟨"grid", "1.0.0", .reexport, "service"⟩,
      ⟨"scale", "2.0.0-rc.2", .service, "service"⟩,
      ⟨"tile", "1.1.3-alpha", .service, "service"⟩], []⟩)]
  nodup_keys := by decide

theorem resolve_admitting_survey :
    survey.KeepsBindings .default ∧
      ∃ r r', (survey.resolve (Config.default.admitting false)).result = .ok r ∧
        (survey.resolve (Config.default.admitting true)).result = .ok r' ∧
        r.order = ["map", "chart"] ∧ r'.order = ["map", "atlas", "chart"] ∧
        r.accepted.map Prod.fst ⊆ r'.accepted.map Prod.fst := by
  have hkeeps : survey.KeepsBindings .default := by decide
  obtain ⟨r', hr', hsubset⟩ := (resolve_admitting .default survey).2 hkeeps _ rfl
  refine ⟨hkeeps, _, r', rfl, hr', rfl, ?_, hsubset⟩
  cases hr'
  rfl

/-- A catalogue in which `alarm` asks for anything after a pre-release of 1.2.3, and `clock` has
1.2.3. -/
def clockwork : Catalog where
  entries := [
    ("clock", ⟨"clock", none, [⟨"s", "1.2.3", .service, "service"⟩], []⟩),
    ("alarm", ⟨"alarm", none, [], [⟨"clock", "s", "s", .text ">1.2.3-beta.1", none⟩]⟩)]
  nodup_keys := by decide

theorem rejected_clockwork :
    ∃ r r', (clockwork.resolve (Config.default.admitting false)).result = .ok r ∧
      (clockwork.resolve (Config.default.admitting true)).result = .ok r' ∧
      r.accepted.map Prod.fst = ["clock", "alarm"] ∧ r'.accepted.map Prod.fst = ["clock"] ∧
      ¬ r.accepted.map Prod.fst ⊆ r'.accepted.map Prod.fst := by
  refine ⟨_, _, rfl, rfl, rfl, rfl, ?_⟩
  decide

end PluginOrder.Catalog
