import PluginOrder.Plugin.Registry
import PluginOrder.Proofs.Ledger.Lookup
import Mathlib.Tactic.Tauto

/-!
# Registering plugins

A plugin is refused if its identifier is taken, unless it is to take over.  So a list of plugins
that replace nobody can be registered if and only if their identifiers are different and free
(`registerAll_distinct`).  A list of plugins that replace each other can always be registered, and
each identifier stands where it occurs first, with the plugin that has it last
(`registerAll_replacing`).
-/

namespace PluginOrder

variable {n : Nat}

/-- The identifiers of the plugins of a store. -/
def Store.identifier (store : Store n) (handle : Fin n) : String := (store.get handle).identifier

namespace Registry

variable {store : Store n} {r : Registry n} {handle : Fin n} {replace : Bool}

/-- A plugin is refused if its identifier is taken and it is not to take over. -/
theorem register_refused (h : (r.contains (store.identifier handle) && !replace) = true) :
    r.register store handle replace = .error (.duplicate (.text (store.identifier handle))) := by
  rw [Bool.and_eq_true, Bool.not_eq_true', Store.identifier] at h
  simp [register, h.1, h.2, Store.identifier]

theorem register_accepted (h : (r.contains (store.identifier handle) && !replace) = false) :
    ∃ journal, r.register store handle replace =
      .ok (r.insert (store.identifier handle) handle, journal) := by
  unfold Store.identifier at h ⊢
  cases hcontains : r.contains (store.get handle).identifier with
  | false => exact ⟨_, by simp [register, hcontains]; rfl⟩
  | true =>
      have hreplace : replace = true := by simpa [hcontains] using h
      exact ⟨_, by simp [register, hcontains, hreplace]; rfl⟩

/-- Of several plugins the first one is registered, and then the others. -/
theorem registerAll_cons {r' : Registry n} {rest : List (Fin n)} :
    (∃ journal, registerAll store replace r (handle :: rest) = .ok (r', journal)) ↔
      (r.contains (store.identifier handle) && !replace) = false ∧
        ∃ journal, registerAll store replace (r.insert (store.identifier handle) handle) rest =
          .ok (r', journal) := by
  cases h : r.contains (store.identifier handle) && !replace with
  | true =>
      have hrefused := register_refused h
      simp [registerAll, hrefused, bind, Except.bind]
  | false =>
      obtain ⟨first, haccepted⟩ := register_accepted h
      simp only [registerAll, haccepted, bind, Except.bind, true_and]
      cases registerAll store replace (r.insert (store.identifier handle) handle) rest with
      | error error => simp
      | ok last => simp [Prod.ext_iff]

/-- Plugins that replace nobody can be registered if they have different identifiers that are
free. -/
theorem registerAll_distinct {handles : List (Fin n)} :
    (∃ r' journal, registerAll store false r handles = .ok (r', journal)) ↔
      (handles.map store.identifier).Nodup ∧
        ∀ handle ∈ handles, store.identifier handle ∉ r.keys := by
  induction handles generalizing r with
  | nil => simp [registerAll]
  | cons handle rest ih =>
      have hcontains : r.contains (store.identifier handle) = false ↔
          store.identifier handle ∉ r.keys := by
        rw [← Bool.not_eq_true, Ledger.contains_iff]
      simp only [registerAll_cons, exists_and_left, ih, Bool.not_false, Bool.and_true, hcontains,
        List.map_cons, List.nodup_cons, List.forall_mem_cons, Ledger.mem_keys_insert, not_or,
        List.mem_map, not_exists, not_and, forall_and]
      tauto

variable (store r) in
/-- Plugins that replace others can always be registered.  Each identifier comes in where it occurs
first, with the plugin that has it last. -/
theorem registerAll_replacing (handles : List (Fin n)) :
    ∃ r' : Registry n, (∃ journal, registerAll store true r handles = .ok (r', journal)) ∧
      r'.keys = r.keys ++ ((handles.map store.identifier).removeAll r.keys).eraseDups ∧
      ∀ id, r'.get? id =
        (handles.filter fun handle => store.identifier handle = id).getLast?.or (r.get? id) := by
  induction handles generalizing r with
  | nil => exact ⟨r, ⟨[], rfl⟩, by simp [List.removeAll], fun id => by simp⟩
  | cons handle rest ih =>
      obtain ⟨r', hrest, hkeys, hget⟩ := ih (r.insert (store.identifier handle) handle)
      refine ⟨r', registerAll_cons.mpr ⟨by simp, hrest⟩, ?_, fun id => ?_⟩
      · rw [hkeys, Ledger.keys_insert]
        by_cases hmem : store.identifier handle ∈ r.keys
        · simp [List.removeAll, hmem]
        · -- the identifier comes in here, so it is taken out of what the rest brings in
          have hfilter :
              (rest.map store.identifier).removeAll (r.keys ++ [store.identifier handle]) =
              ((rest.map store.identifier).removeAll r.keys).filter
                fun id => !id == store.identifier handle := by
            simp only [List.removeAll, List.filter_filter]
            refine List.filter_congr fun id _ => ?_
            rw [Bool.eq_iff_iff]
            simp [and_comm]
          have hcons : (store.identifier handle :: rest.map store.identifier).removeAll r.keys =
              store.identifier handle :: (rest.map store.identifier).removeAll r.keys := by
            simp [List.removeAll, hmem]
          rw [if_neg hmem, hfilter, List.map_cons, hcons, List.eraseDups_cons, List.append_assoc,
            List.singleton_append]
      · rw [hget, Ledger.get?_insert]
        by_cases hid : store.identifier handle = id
        · simp [hid, List.getLast?_cons]
        · simp [hid]

end Registry

end PluginOrder
