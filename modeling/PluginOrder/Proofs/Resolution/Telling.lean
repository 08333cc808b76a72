import PluginOrder.Proofs.Plugin.Settlement
import PluginOrder.Proofs.Resolution.Blame
import PluginOrder.Proofs.Text.Words

/-!
# What of a resolution can be told

A resolution is decided first and told of afterwards.  A reject is told of with its reason in words,
and the only part of a reason that may be without words is the range that was not met
(`Rejection.format?_eq_none_iff`).  So if every range of a catalogue has a text, the caller is given
what was decided (`Catalog.answer_of_legible`).

A value without a text is no range.  It gets into a reason only where an import is refused for it,
by a plugin whose provider is registered (`Catalog.illegible_of_reject`).
-/

namespace PluginOrder

/-! ## Reasons in words -/

theorem Rejection.exists_field_iff {r : Rejection} :
    (∃ field ∈ r.context, field.2.display? = none) ↔ r.required.display? = none := by
  have htext (s : String) : (Value.text s).display? ≠ none := Option.some_ne_none s
  unfold context
  constructor
  · -- the other fields are texts, and a range is among them unless it is null
    rintro ⟨field, hfield, hnone⟩
    rw [List.mem_append, List.mem_append, List.mem_singleton] at hfield
    rcases hfield with (rfl | hservice) | hrequired
    · exact absurd hnone (htext _)
    · split at hservice
      · rw [List.mem_singleton.mp hservice] at hnone
        exact absurd hnone (htext _)
      · cases hservice
    · split at hrequired
      · cases hrequired
      · rw [List.mem_singleton.mp hrequired] at hnone
        exact hnone
  · intro hnone
    refine ⟨("requiredVersion", r.required), List.mem_append_right _ ?_, hnone⟩
    split
    · rename_i hnull
      rw [hnull] at hnone
      cases hnone
    · exact List.mem_singleton_self _

/-- The only part of a reason that may be without words is the range that was not met. -/
theorem Rejection.format?_eq_none_iff {r : Rejection} :
    r.format? = none ↔ r.required.display? = none := by
  rw [← exists_field_iff, format?, Option.bind_eq_bind, Option.bind_eq_none_iff]
  simp only [reduceCtorEq, imp_false]
  rw [← Option.eq_none_iff_forall_ne_some, Text.mapM_eq_none_iff]
  simp only [Option.map_eq_none_iff]

theorem Reject.event?_eq_none_iff {r : Reject} :
    r.event? = none ↔ r.reason.required.display? = none := by
  rw [event?, Option.map_eq_none_iff, Rejection.format?_eq_none_iff]

theorem Reject.isSome_event?_iff {r : Reject} :
    r.event?.isSome = true ↔ r.reason.required.display? ≠ none :=
  Option.isSome_iff_ne_none.trans event?_eq_none_iff.not

/-! ## What is told of rejects -/

namespace Resolution

variable {r : Resolution} {reject : Reject}

theorem untold?_eq_none_iff :
    r.untold? = none ↔ ∀ reject ∈ r.rejects, reject.reason.required.display? ≠ none := by
  simp only [untold?, List.find?_eq_none, Option.isNone_iff_eq_none, Reject.event?_eq_none_iff,
    ne_eq]

/-- The reject that cannot be told of stands behind others that can. -/
theorem untold?_eq_some_iff :
    r.untold? = some reject ↔
      reject.reason.required.display? = none ∧ ∃ front rest, r.rejects = front ++ reject :: rest ∧
        ∀ other ∈ front, other.reason.required.display? ≠ none := by
  simp only [untold?, List.find?_eq_some_iff_append, Option.isNone_iff_eq_none,
    Reject.event?_eq_none_iff, Bool.not_eq_true', ← Bool.not_eq_true, ne_eq]

theorem map_some_filterMap_event? {rejects : List Reject}
    (h : ∀ reject ∈ rejects, reject.reason.required.display? ≠ none) :
    (rejects.filterMap Reject.event?).map some = rejects.map Reject.event? := by
  induction rejects with
  | nil => rfl
  | cons first rest ih =>
      obtain ⟨hfirst, hrest⟩ := List.forall_mem_cons.mp h
      obtain ⟨event, hevent⟩ := Option.isSome_iff_exists.mp (Reject.isSome_event?_iff.mpr hfirst)
      simp only [List.filterMap_cons, hevent, List.map_cons, ih hrest]

/-- If all rejects can be told of, they are, and the resolution is complete. -/
theorem closing_of_untold? (h : r.untold? = none) :
    r.closing = r.told ++ [.resolutionCompleted r.order r.rejected] ∧
      r.told.map some = r.rejects.map Reject.event? := by
  have hall := untold?_eq_none_iff.mp h
  have htaken : r.rejects.takeWhile (·.event?.isSome) = r.rejects :=
    List.takeWhile_eq_self_iff.mpr fun reject hreject =>
      Reject.isSome_event?_iff.mpr (hall reject hreject)
  refine ⟨by rw [closing, h], ?_⟩
  rw [told, htaken]
  exact map_some_filterMap_event? hall

/-- If a reject cannot be told of, those in front of it are, and then no more is told. -/
theorem closing_of_untold {front rest : List Reject}
    (hrejects : r.rejects = front ++ reject :: rest)
    (hfront : ∀ other ∈ front, other.reason.required.display? ≠ none)
    (hnone : reject.reason.required.display? = none) :
    r.closing = r.told ∧ r.told.map some = front.map Reject.event? := by
  have huntold : r.untold? = some reject :=
    untold?_eq_some_iff.mpr ⟨hnone, front, rest, hrejects, hfront⟩
  have htaken : r.rejects.takeWhile (·.event?.isSome) = front := by
    rw [hrejects, List.takeWhile_append_of_pos, List.takeWhile_cons_of_neg, List.append_nil]
    · simp [Reject.event?_eq_none_iff.mpr hnone]
    · exact fun other hother => Reject.isSome_event?_iff.mpr (hfront other hother)
  refine ⟨by rw [closing, huntold], ?_⟩
  rw [told, htaken]
  exact map_some_filterMap_event? hfront

end Resolution

/-! ## What the caller is given -/

namespace Run

variable {run : Run} {r : Resolution} {reject : Reject}

theorem answer_eq_ok_iff : run.answer = .ok r ↔ run.result = .ok r ∧ r.untold? = none := by
  cases hresult : run.result with
  | error fault => simp [answer, hresult]
  | ok decided =>
      cases huntold : decided.untold? with
      | none =>
          simp only [answer, hresult, huntold, Except.ok.injEq]
          exact ⟨fun heq => ⟨heq, heq ▸ huntold⟩, fun h => h.1⟩
      | some reject =>
          simp only [answer, hresult, huntold, reduceCtorEq, Except.ok.injEq, false_iff]
          rintro ⟨rfl, hnone⟩
          rw [huntold] at hnone
          cases hnone

theorem answer_eq_walk_iff {fault : WalkFault} :
    run.answer = .error (.walk fault) ↔ run.result = .error fault := by
  cases hresult : run.result with
  | error other => simp [answer, hresult]
  | ok decided => cases huntold : decided.untold? <;> simp [answer, hresult, huntold]

theorem answer_eq_untold_iff :
    run.answer = .error (.untold reject) ↔ ∃ r, run.result = .ok r ∧ r.untold? = some reject := by
  cases hresult : run.result with
  | error other => simp [answer, hresult]
  | ok decided => cases huntold : decided.untold? <;> simp [answer, hresult, huntold]

end Run

namespace Catalog

variable {c : Config} {catalog : Catalog} {r : Resolution} {reject : Reject}

/-- Every range of a catalogue has a text. -/
def Legible (catalog : Catalog) : Prop :=
  ∀ key p, catalog.get? key = some p → ∀ i ∈ p.imports, i.versionRange.display? ≠ none

theorem legible_iff :
    catalog.Legible ↔ ∀ entry ∈ catalog.entries, ∀ i ∈ entry.2.imports,
      i.versionRange.display? ≠ none := by
  unfold Legible
  simp only [Ledger.get?_eq_some_iff, Prod.forall]

instance (catalog : Catalog) : Decidable catalog.Legible := decidable_of_iff' _ legible_iff

/-- A reason without words is that of an import whose range has no text and whose provider is
there. -/
theorem illegible_of_validate {i : Import} {source : Option Plugin} {reason : Rejection}
    (h : i.validate c source = .refused reason) (hnone : reason.required.display? = none) :
    i.versionRange.display? = none ∧ ∃ provider, source = some provider ∧
      reason = ⟨.invalidRequiredVersionRange, provider.identifier, none, i.versionRange⟩ := by
  have hsettled := Import.settled_validate c i source
  rw [h] at hsettled
  cases hsettled with
  | noRange => exact ⟨hnone, _, rfl, rfl⟩
  | mismatch hrange =>
      cases htext : i.versionRange with
      | text s =>
          simp only [htext] at hnone
          cases hnone
      | _ =>
          rw [htext] at hrange
          cases hrange
  | _ => cases hnone

/-- **Which rejects cannot be told of.**  The plugin has an import from a registered plugin, with a
range that has no text and is refused as none. -/
theorem illegible_of_reject (h : (catalog.resolve c).result = .ok r) (hreject : reject ∈ r.rejects)
    (hnone : reject.reason.required.display? = none) :
    ∃ p, catalog.get? reject.key = some p ∧ ∃ i ∈ p.imports, i.versionRange.display? = none ∧
      ∃ provider, catalog.get? i.sourcePlugin = some provider ∧ reject.reason =
        ⟨.invalidRequiredVersionRange, provider.identifier, none, i.versionRange⟩ := by
  obtain ⟨p, hp, _, i, hi, hrefused | ⟨_, _, hreason⟩⟩ := exists_justifies_of_reject h hreject
  · obtain ⟨hillegible, provider, hprovider, hreason⟩ := illegible_of_validate hrefused hnone
    exact ⟨p, hp, i, hi, hillegible, provider, hprovider, hreason⟩
  · rw [hreason] at hnone
    cases hnone

theorem untold?_of_legible (hlegible : catalog.Legible) (h : (catalog.resolve c).result = .ok r) :
    r.untold? = none := by
  refine Resolution.untold?_eq_none_iff.mpr fun reject hreject hnone => ?_
  obtain ⟨p, hp, i, hi, hillegible, _⟩ := illegible_of_reject h hreject hnone
  exact hlegible _ p hp i hi hillegible

/-- **If every range has a text, the caller is given what is decided.** -/
theorem answer_of_legible (hlegible : catalog.Legible) :
    (catalog.resolve c).answer = (catalog.resolve c).result.mapError .walk := by
  cases hresult : (catalog.resolve c).result with
  | ok r => exact Run.answer_eq_ok_iff.mpr ⟨hresult, untold?_of_legible hlegible hresult⟩
  | error fault => exact Run.answer_eq_walk_iff.mpr hresult

end Catalog

end PluginOrder
