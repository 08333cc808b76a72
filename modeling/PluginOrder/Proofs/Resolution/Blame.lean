import PluginOrder.Proofs.Plugin.Binding
import PluginOrder.Proofs.Resolution.Outcome
import PluginOrder.Proofs.Walk.Reason
import Mathlib.Data.List.Perm.Subperm

/-!
# Whom a reject blames

Every reject can be checked against the catalogue.  Its plugin has an import that either is refused
with exactly the reason that the reject gives, or could be served by a plugin that is rejected as
well, and then the reason names that plugin and nothing else (`justified_of_reject`).

So whoever blames another plugin blames a reject, and one can ask on.  Each reject blames a plugin
that its own plugin imports from, and when a resolution returns, imports do not go around in
circles: no plugin is met twice, and since there are finitely many the chain of blame ends, at a
reject whose own import is to blame (`traced_of_reject`).
-/

namespace PluginOrder

namespace Resolution

/-- The reject that another one blames, if the latter was let down by a plugin. -/
def blamed? (r : Resolution) (reject : Reject) : Option Reject :=
  if reject.reason.status = .requiredPluginFailedToLoad then
    r.rejects.find? fun other => other.key == reject.reason.plugin
  else none

/-- A reject and those that one meets by following the blame, at most as many as the first
argument says. -/
def trace (r : Resolution) : Nat → Reject → List Reject
  | 0, _ => []
  | n + 1, reject =>
    reject ::
      match r.blamed? reject with
      | none => []
      | some next => trace r n next

variable {r : Resolution} {reject next : Reject} {n : Nat}

theorem of_blamed? (h : r.blamed? reject = some next) :
    reject.reason.status = .requiredPluginFailedToLoad ∧ next ∈ r.rejects ∧
      next.key = reject.reason.plugin := by
  unfold blamed? at h
  split at h
  · rename_i hstatus
    exact ⟨hstatus, List.mem_of_find?_eq_some h, by simpa using List.find?_some h⟩
  · cases h

/-- A reject that was let down by a rejected plugin blames a reject. -/
theorem exists_blamed? (hstatus : reject.reason.status = .requiredPluginFailedToLoad)
    (hrejected : reject.reason.plugin ∈ r.rejected) : ∃ next, r.blamed? reject = some next := by
  obtain ⟨other, hother, hkey⟩ := List.mem_map.mp hrejected
  unfold blamed?
  rw [if_pos hstatus, ← Option.isSome_iff_exists, List.find?_isSome]
  exact ⟨other, hother, by simp [hkey]⟩

theorem head?_trace (r : Resolution) (n : Nat) (reject : Reject) :
    (r.trace (n + 1) reject).head? = some reject := rfl

theorem mem_rejects_of_mem_trace (hreject : reject ∈ r.rejects) :
    ∀ other ∈ r.trace n reject, other ∈ r.rejects := by
  induction n generalizing reject with
  | zero => simp [trace]
  | succ n ih =>
      intro other hother
      rcases List.mem_cons.mp hother with rfl | hrest
      · exact hreject
      · split at hrest
        · cases hrest
        · rename_i next hnext
          exact ih (of_blamed? hnext).2.1 other hrest

theorem isChain_trace (r : Resolution) (n : Nat) (reject : Reject) :
    (r.trace n reject).IsChain fun first second => r.blamed? first = some second := by
  induction n generalizing reject with
  | zero => exact .nil
  | succ n ih =>
      unfold trace
      split
      · exact List.isChain_singleton _
      · rename_i next hnext
        refine List.isChain_cons.mpr ⟨fun second hsecond => ?_, ih next⟩
        cases n with
        | zero => cases hsecond
        | succ n =>
            rw [head?_trace] at hsecond
            cases hsecond
            exact hnext

/-- Unless it is cut off, a trace ends with a reject that blames no other. -/
theorem length_or_last_trace (r : Resolution) (n : Nat) (reject : Reject) :
    (r.trace n reject).length = n ∨
      ∃ root, (r.trace n reject).getLast? = some root ∧ r.blamed? root = none := by
  induction n generalizing reject with
  | zero => exact Or.inl rfl
  | succ n ih =>
      unfold trace
      split
      · rename_i hnone
        exact Or.inr ⟨reject, rfl, hnone⟩
      · rename_i next hnext
        rcases ih next with hlength | ⟨root, hlast, hroot⟩
        · exact Or.inl (by rw [List.length_cons, hlength])
        · refine Or.inr ⟨root, ?_, hroot⟩
          rw [List.getLast?_cons, hlast, Option.getD_some]

end Resolution

namespace Catalog

variable {c : Config} {catalog : Catalog} {r : Resolution} {reject : Reject}

/-! ## Reasons -/

/-- An import justifies a reason for rejecting its plugin: it is refused for this reason, or it can
be served by a plugin that is rejected, which is all that the reason says. -/
def Justifies (c : Config) (catalog : Catalog) (r : Resolution) (i : Import) (reason : Rejection) :
    Prop :=
  i.validate c (catalog.get? i.sourcePlugin) = .refused reason ∨
    (catalog.Serves c i ∧ i.sourcePlugin ∈ r.rejected ∧
      reason = ⟨.requiredPluginFailedToLoad, i.sourcePlugin, none, .null⟩)

theorem eq_refused_of_edgeOf {key : String} {i : Import} {reason : Rejection}
    (herror : (catalog.edgeOf c key i).error = some reason) :
    i.validate c (catalog.get? i.sourcePlugin) = .refused reason := by
  have hreason : (i.validate c (catalog.get? i.sourcePlugin)).reason? = some reason := herror
  cases houtcome : i.validate c (catalog.get? i.sourcePlugin) with
  | bound service =>
      rw [houtcome] at hreason
      cases hreason
  | refused other =>
      rw [houtcome] at hreason
      cases hreason
      rfl

/-- What accounts for a verdict in the graph of a catalogue is an import that justifies it. -/
theorem exists_justifies (h : (catalog.resolve c).result = .ok r) {key : String}
    {reason : Rejection}
    (haccounts : (catalog.buildGraph c).graph.Accounts (catalog.buildGraph c).graph.Doomed key
      reason) :
    ∃ p, catalog.get? key = some p ∧ ∃ i ∈ p.imports, Justifies c catalog r i reason := by
  cases haccounts with
  | bad hnode hedge himporter _ herror =>
      obtain ⟨key', p, hp, i, hi, _, rfl⟩ := (mem_dependents_iff hnode).mp hedge
      have hkey : key' = key := himporter
      exact ⟨p, hkey ▸ hp, i, hi, Or.inl (eq_refused_of_edgeOf herror)⟩
  | cascade hnode hedge himporter hvalid hprovider =>
      obtain ⟨key', p, hp, i, hi, rfl, rfl⟩ := (mem_dependents_iff hnode).mp hedge
      have hkey : key' = key := himporter
      have hserves : catalog.Serves c i := hvalid
      have hrejected : i.sourcePlugin ∈ r.rejected :=
        (mem_rejected_iff h).mpr ⟨hserves.mem_keys, doomed_buildGraph.mp hprovider⟩
      exact ⟨p, hkey ▸ hp, i, hi, Or.inr ⟨hserves, hrejected, rfl⟩⟩

/-- The import that justifies a reject. -/
theorem exists_justifies_of_reject (h : (catalog.resolve c).result = .ok r)
    (hreject : reject ∈ r.rejects) :
    ∃ p, catalog.get? reject.key = some p ∧ reject.plugin = catalog.rebindPlugin c p ∧
      ∃ i ∈ p.imports, Justifies c catalog r i reject.reason := by
  obtain ⟨w, hsort, hcollect⟩ := result_ok h
  have hmem := hreject
  rw [← hcollect, mem_collect_rejects_iff, get?_rebind] at hmem
  obtain ⟨hplugin, hreason⟩ := hmem
  obtain ⟨p, hp, hrebind⟩ := Option.map_eq_some_iff.mp hplugin
  have haccounts := (untouched_buildGraph c catalog).accounts_of_sort hsort hreason
  obtain ⟨p', hp', himport⟩ := exists_justifies h haccounts
  rw [hp] at hp'
  cases hp'
  exact ⟨p, hp, hrebind.symm, himport⟩

/-- A reject that was let down names a rejected plugin that its own plugin imports from. -/
theorem let_down_of_reject (h : (catalog.resolve c).result = .ok r) (hreject : reject ∈ r.rejects)
    (hstatus : reject.reason.status = .requiredPluginFailedToLoad) :
    catalog.Asks reject.key reject.reason.plugin ∧ reject.reason.plugin ∈ r.rejected := by
  obtain ⟨p, hp, _, i, hi, hrefused | ⟨_, hrejected, hreason⟩⟩ :=
    exists_justifies_of_reject h hreject
  · exact absurd hstatus (Status.mem_direct_iff.mp (Import.direct_of_validate hrefused))
  · rw [hreason]
    exact ⟨⟨p, hp, i, hi, rfl⟩, hrejected⟩

/-- **A reject is justified by an import of its plugin.**  A reason that blames the failure of
another plugin names a registered plugin that the rejected one imports from, and that is rejected
and not accepted. -/
theorem justified_of_reject (h : (catalog.resolve c).result = .ok r)
    (hreject : reject ∈ r.rejects) :
    (∃ p, catalog.get? reject.key = some p ∧ reject.plugin = catalog.rebindPlugin c p ∧
      ∃ i ∈ p.imports, Justifies c catalog r i reject.reason) ∧
    (reject.reason.status = .requiredPluginFailedToLoad →
      catalog.Asks reject.key reject.reason.plugin ∧ reject.reason.plugin ∈ catalog.keys ∧
        reject.reason.plugin ∈ r.rejected ∧ reject.reason.plugin ∉ r.accepted.map Prod.fst) := by
  refine ⟨exists_justifies_of_reject h hreject, fun hstatus => ?_⟩
  obtain ⟨hasks, hrejected⟩ := let_down_of_reject h hreject hstatus
  obtain ⟨hkey, hbroken⟩ := (mem_rejected_iff h).mp hrejected
  exact ⟨hasks, hkey, hrejected, fun haccepted =>
    ((mem_accepted_keys_iff h).mp haccepted).2 hbroken⟩

/-- A catalogue in which `b` can be served by `a` at first, and is let down by it when `a` turns out
to have an import that fails.  Nobody has registered `ghost`. -/
def stranded : Catalog where
  entries := [
    ("core", ⟨"core", none, [⟨"s", "1.0.0", .service, "service"⟩], []⟩),
    ("c", ⟨"c", none, [], [⟨"core", "s", "s", .text "*", none⟩, ⟨"b", "s", "s", .text "*", none⟩]⟩),
    ("b", ⟨"b", none, [⟨"s", "2.0.0", .service, "service"⟩],
      [⟨"a", "s", "s", .text "^1.0.0", none⟩]⟩),
    ("a", ⟨"a", none, [⟨"s", "1.1.0", .service, "service"⟩],
      [⟨"core", "s", "s", .text "*", none⟩, ⟨"ghost", "s", "s", .text "*", none⟩]⟩)]
  nodup_keys := by decide

theorem rejects_stranded :
    ∃ r, (stranded.resolve .default).result = .ok r ∧
      (r.rejects.map fun reject => (reject.key, reject.reason)) =
        [("c", ⟨.requiredPluginFailedToLoad, "b", none, .null⟩),
          ("b", ⟨.requiredPluginFailedToLoad, "a", none, .null⟩),
          ("a", ⟨.requiredPluginNotFound, "ghost", none, .null⟩)] :=
  ⟨_, rfl, rfl⟩

/-- The reject of `c` in a resolution of `stranded`. -/
theorem exists_reject_stranded :
    ∃ r reject, (stranded.resolve .default).result = .ok r ∧ reject ∈ r.rejects ∧
      reject.key = "c" ∧ reject.reason = ⟨.requiredPluginFailedToLoad, "b", none, .null⟩ := by
  obtain ⟨r, h, hrejects⟩ := rejects_stranded
  obtain ⟨reject, hreject, heq⟩ := List.mem_map.mp (hrejects ▸ List.mem_cons_self)
  obtain ⟨hkey, hreason⟩ := Prod.mk.inj heq
  exact ⟨r, reject, h, hreject, hkey, hreason⟩

theorem justified_of_reject_stranded :
    ∃ r reject, (stranded.resolve .default).result = .ok r ∧ reject ∈ r.rejects ∧
      reject.reason = ⟨.requiredPluginFailedToLoad, "b", none, .null⟩ ∧
      (∃ p, stranded.get? reject.key = some p ∧ reject.plugin = stranded.rebindPlugin .default p ∧
        ∃ i ∈ p.imports, Justifies .default stranded r i reject.reason) ∧
      stranded.Asks "c" "b" ∧ "b" ∈ stranded.keys ∧ "b" ∈ r.rejected ∧
        "b" ∉ r.accepted.map Prod.fst := by
  obtain ⟨r, reject, h, hreject, hkey, hreason⟩ := exists_reject_stranded
  obtain ⟨himport, hblame⟩ := justified_of_reject h hreject
  rw [hkey, hreason] at hblame
  exact ⟨r, reject, h, hreject, hreason, himport, hblame rfl⟩

/-! ## Chains of blame -/

/-- How the blame for a reject is passed on, up to its root cause. -/
structure Traced (catalog : Catalog) (r : Resolution) (reject : Reject) (chain : List Reject) :
    Prop where
  /-- It starts at the reject. -/
  head?_eq : chain.head? = some reject
  /-- It runs through rejects, all of them of registered plugins. -/
  mem_rejects : ∀ other ∈ chain, other ∈ r.rejects ∧ other.key ∈ catalog.keys
  /-- It goes on from a reject that blames another plugin, to the reject of that plugin. -/
  follows : chain.IsChain fun first second =>
    first.reason.status = .requiredPluginFailedToLoad ∧ second.key = first.reason.plugin
  /-- No plugin is met twice. -/
  nodup : (chain.map (·.key)).Nodup
  /-- It takes fewer steps than there are registered plugins. -/
  length_le : chain.length ≤ catalog.size
  /-- It ends at a reject that blames no other plugin. -/
  root : ∃ root, chain.getLast? = some root ∧ root.reason.status ∈ Status.direct

/-- Whoever is blamed is imported from. -/
theorem isChain_keys_trace (h : (catalog.resolve c).result = .ok r) (hreject : reject ∈ r.rejects)
    (n : Nat) : ((r.trace n reject).map (·.key)).IsChain catalog.Asks := by
  rw [List.isChain_map]
  have hchain := Resolution.isChain_trace r n reject
  refine hchain.imp_of_mem_imp fun first second hfirst _ hblamed => ?_
  obtain ⟨hstatus, _, hkey⟩ := Resolution.of_blamed? hblamed
  have hmem := Resolution.mem_rejects_of_mem_trace hreject first hfirst
  rw [hkey]
  exact (let_down_of_reject h hmem hstatus).1

/-- Imports do not go around in circles, and so neither does the blame. -/
theorem nodup_keys_trace (h : (catalog.resolve c).result = .ok r) (hreject : reject ∈ r.rejects)
    (n : Nat) : ((r.trace n reject).map (·.key)).Nodup := by
  have hchain : ((r.trace n reject).map (·.key)).IsChain (Relation.TransGen catalog.Asks) :=
    (isChain_keys_trace h hreject n).imp fun _ _ => .single
  refine (List.isChain_iff_pairwise.mp hchain).imp fun {first second} hasks heq => ?_
  rw [heq] at hasks
  exact (wellFounded_asks h).transGen.irrefl.irrefl second hasks

theorem mem_keys_of_mem_trace (h : (catalog.resolve c).result = .ok r)
    (hreject : reject ∈ r.rejects)
    {n : Nat} : ∀ other ∈ r.trace n reject, other.key ∈ catalog.keys := by
  intro other hother
  have hmem := Resolution.mem_rejects_of_mem_trace hreject other hother
  exact ((mem_rejected_iff h).mp (List.mem_map_of_mem hmem)).1

theorem length_trace_le (h : (catalog.resolve c).result = .ok r) (hreject : reject ∈ r.rejects)
    (n : Nat) : (r.trace n reject).length ≤ catalog.size := by
  have hsubset : (r.trace n reject).map (·.key) ⊆ catalog.keys := by
    intro key hkey
    obtain ⟨other, hother, rfl⟩ := List.mem_map.mp hkey
    exact mem_keys_of_mem_trace h hreject other hother
  have hlength := (List.subperm_of_subset (nodup_keys_trace h hreject n) hsubset).length_le
  simpa [Ledger.keys, Ledger.size] using hlength

/-- **The blame for a reject is passed on to a root cause.**  As long as a reject blames another
plugin, that plugin is rejected as well and one can go on with its reject.  This meets no plugin
twice, and ends at a reject with an import of its own to blame, in fewer steps than there are
registered plugins. -/
theorem traced_of_reject (h : (catalog.resolve c).result = .ok r) (hreject : reject ∈ r.rejects)
    {n : Nat} (hn : catalog.size < n) : Traced catalog r reject (r.trace n reject) where
  head?_eq := by
    cases n with
    | zero => exact absurd hn (Nat.not_lt_zero _)
    | succ n => exact Resolution.head?_trace r n reject
  mem_rejects := fun other hother =>
    ⟨Resolution.mem_rejects_of_mem_trace hreject other hother,
      mem_keys_of_mem_trace h hreject other hother⟩
  follows := by
    refine (Resolution.isChain_trace r n reject).imp fun first second hblamed => ?_
    obtain ⟨hstatus, _, hkey⟩ := Resolution.of_blamed? hblamed
    exact ⟨hstatus, hkey⟩
  nodup := nodup_keys_trace h hreject n
  length_le := length_trace_le h hreject n
  root := by
    rcases Resolution.length_or_last_trace r n reject with hlength | ⟨root, hlast, hnone⟩
    · exact absurd (hlength ▸ length_trace_le h hreject n) (Nat.not_le_of_lt hn)
    · refine ⟨root, hlast, Status.mem_direct_iff.mpr fun hstatus => ?_⟩
      -- a root that blames a plugin would blame a reject, and the trace would go on
      have hmem := Resolution.mem_rejects_of_mem_trace hreject root (List.mem_of_getLast? hlast)
      have hrejected := (let_down_of_reject h hmem hstatus).2
      obtain ⟨next, hnext⟩ := Resolution.exists_blamed? hstatus hrejected
      rw [hnone] at hnext
      cases hnext

theorem traced_of_reject_stranded :
    ∃ r reject, (stranded.resolve .default).result = .ok r ∧ reject ∈ r.rejects ∧
      reject.key = "c" ∧ stranded.size < 5 ∧ Traced stranded r reject (r.trace 5 reject) := by
  obtain ⟨r, reject, h, hreject, hkey, _⟩ := exists_reject_stranded
  exact ⟨r, reject, h, hreject, hkey, by decide, traced_of_reject h hreject (by decide)⟩

end Catalog

end PluginOrder
