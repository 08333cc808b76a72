import PluginOrder.Ledger

/-!
# Looking keys up in a ledger

Every operation on ledgers is described by what it does to `get?` and to `keys`.  Since no key
occurs twice, looking a key up is the same as finding its pair among the entries
(`get?_eq_some_iff`), and changing the value under one key changes one summand of a sum over all
values (`sum_values_modify`).
-/

namespace PluginOrder.Ledger

variable {α β σ : Type}

/-! ## Lookups and entries -/

theorem mem_of_find?_eq_some {key : String} {value : α} {entries : List (String × α)}
    (h : find? key entries = some value) : (key, value) ∈ entries := by
  induction entries with
  | nil => simp [find?] at h
  | cons entry rest ih =>
      by_cases hkey : entry.1 = key
      · rw [find?, if_pos hkey] at h
        have hentry : entry = (key, value) := Prod.ext hkey (Option.some_inj.mp h)
        rw [hentry]
        exact List.mem_cons_self
      · rw [find?, if_neg hkey] at h
        exact List.mem_cons_of_mem _ (ih h)

theorem find?_eq_some_of_mem {key : String} {value : α} {entries : List (String × α)}
    (hnodup : (entries.map Prod.fst).Nodup) (hmem : (key, value) ∈ entries) :
    find? key entries = some value := by
  induction entries with
  | nil => simp at hmem
  | cons entry rest ih =>
      rw [List.map_cons, List.nodup_cons] at hnodup
      rcases List.mem_cons.mp hmem with rfl | hrest
      · simp [find?]
      · have hne : entry.1 ≠ key := by
          intro heq
          exact hnodup.1 (heq ▸ List.mem_map_of_mem (f := Prod.fst) hrest)
        rw [find?, if_neg hne]
        exact ih hnodup.2 hrest

theorem get?_eq_some_iff {l : Ledger α} {key : String} {value : α} :
    l.get? key = some value ↔ (key, value) ∈ l.entries :=
  ⟨mem_of_find?_eq_some, find?_eq_some_of_mem l.nodup_keys⟩

theorem mem_keys_iff {l : Ledger α} {key : String} :
    key ∈ l.keys ↔ ∃ value, l.get? key = some value := by
  simp only [keys, List.mem_map, Prod.exists, exists_and_right, exists_eq_right, get?_eq_some_iff]

theorem get?_eq_none_iff {l : Ledger α} {key : String} : l.get? key = none ↔ key ∉ l.keys := by
  rw [mem_keys_iff, Option.eq_none_iff_forall_ne_some, not_exists]

theorem contains_iff {l : Ledger α} {key : String} : l.contains key = true ↔ key ∈ l.keys := by
  rw [contains, Option.isSome_iff_exists, mem_keys_iff]

theorem filterMap_keys {f : String → Option (String × α)} {entries : List (String × α)}
    (h : ∀ entry ∈ entries, f entry.1 = some entry) :
    (entries.map Prod.fst).filterMap f = entries := by
  induction entries with
  | nil => rfl
  | cons entry rest ih =>
      have hrest := ih fun other hother => h other (List.mem_cons_of_mem _ hother)
      rw [List.map_cons, List.filterMap_cons_some (h entry List.mem_cons_self), hrest]

theorem entries_eq_filterMap (l : Ledger α) :
    l.entries = l.keys.filterMap fun key => (l.get? key).map fun value => (key, value) := by
  refine (filterMap_keys fun entry hmem => ?_).symm
  rw [get?_eq_some_iff.mpr hmem]
  rfl

/-- A ledger is known from its keys and the values under them. -/
theorem ext_get? {l m : Ledger α} (hkeys : l.keys = m.keys)
    (hget : ∀ key, l.get? key = m.get? key) : l = m := by
  refine ext_entries ?_
  rw [entries_eq_filterMap, entries_eq_filterMap, hkeys, funext hget]

/-! ## Lookups after a change -/

@[simp] theorem get?_emptyc (key : String) : (∅ : Ledger α).get? key = none := rfl

@[simp] theorem keys_emptyc : (∅ : Ledger α).keys = [] := rfl

theorem find?_map (f : String → α → β) (key : String) (entries : List (String × α)) :
    find? key (entries.map fun entry => (entry.1, f entry.1 entry.2)) =
      (find? key entries).map (f key) := by
  induction entries with
  | nil => rfl
  | cons entry rest ih =>
      by_cases hkey : entry.1 = key <;> simp [find?, hkey, ih]

theorem get?_mapValues (f : String → α → β) (l : Ledger α) (key : String) :
    (l.mapValues f).get? key = (l.get? key).map (f key) :=
  find?_map f key l.entries

theorem get?_modify (l : Ledger α) (key other : String) (f : α → α) :
    (l.modify key f).get? other =
      if other = key then (l.get? other).map f else l.get? other := by
  rw [modify, get?_mapValues]
  by_cases hkey : other = key <;> simp [hkey]

@[simp] theorem get?_modify_self (l : Ledger α) (key : String) (f : α → α) :
    (l.modify key f).get? key = (l.get? key).map f := by
  rw [get?_modify, if_pos rfl]

theorem get?_modify_eq_some_iff {l : Ledger α} {key other : String} {f : α → α} {value : α} :
    (l.modify key f).get? other = some value ↔
      (other = key ∧ ∃ old, l.get? key = some old ∧ f old = value) ∨
        (other ≠ key ∧ l.get? other = some value) := by
  rw [get?_modify]
  by_cases hkey : other = key
  · simp [hkey]
  · simp [hkey]

theorem get?_ensure (l : Ledger α) (key other : String) (value : α) :
    (l.ensure key value).get? other =
      if key = other then some ((l.get? other).getD value) else l.get? other := by
  unfold ensure
  by_cases hmem : l.contains key = true
  · obtain ⟨present, hpresent⟩ := mem_keys_iff.mp (contains_iff.mp hmem)
    rw [if_pos hmem]
    split
    · rename_i heq
      rw [← heq, hpresent, Option.getD_some]
    · rfl
  · have habsent : l.get? key = none :=
      get?_eq_none_iff.mpr fun hkey => hmem (contains_iff.mpr hkey)
    rw [if_neg hmem, get?_insert]
    split
    · rename_i heq
      rw [← heq, habsent, Option.getD_none]
    · rfl

theorem keys_ensure (l : Ledger α) (key : String) (value : α) :
    (l.ensure key value).keys = if key ∈ l.keys then l.keys else l.keys ++ [key] := by
  unfold ensure
  by_cases hmem : key ∈ l.keys
  · rw [if_pos (contains_iff.mpr hmem), if_pos hmem]
  · rw [if_neg (fun h => hmem (contains_iff.mp h)), keys_insert]

theorem mem_keys_insert {l : Ledger α} {key other : String} {value : α} :
    other ∈ (l.insert key value).keys ↔ other ∈ l.keys ∨ other = key := by
  rw [keys_insert]
  split
  · rename_i hmem
    exact ⟨Or.inl, fun h => h.elim id fun heq => heq ▸ hmem⟩
  · rw [List.mem_append, List.mem_singleton]

theorem put_of_not_mem {key : String} {value : α} {entries : List (String × α)}
    (h : key ∉ entries.map Prod.fst) : put key value entries = entries ++ [(key, value)] := by
  induction entries with
  | nil => rfl
  | cons entry rest ih =>
      rw [List.map_cons, List.mem_cons, not_or] at h
      rw [put, if_neg (Ne.symm h.1), ih h.2, List.cons_append]

/-- A new key goes to the end. -/
theorem entries_insert {l : Ledger α} {key : String} {value : α} (h : key ∉ l.keys) :
    (l.insert key value).entries = l.entries ++ [(key, value)] :=
  put_of_not_mem h

theorem put_of_mem {key : String} {value : α} {entries : List (String × α)}
    (hnodup : (entries.map Prod.fst).Nodup) (h : key ∈ entries.map Prod.fst) :
    put key value entries =
      entries.map fun entry => if entry.1 = key then (key, value) else entry := by
  induction entries with
  | nil => cases h
  | cons entry rest ih =>
      rw [List.map_cons, List.nodup_cons] at hnodup
      by_cases hkey : entry.1 = key
      · -- the key occurs only here, and what follows stays as it is
        have hother : ∀ other ∈ rest, (if other.1 = key then (key, value) else other) = other := by
          refine fun other hmem => if_neg fun heq => hnodup.1 ?_
          rw [hkey, ← heq]
          exact List.mem_map_of_mem hmem
        have hrest : rest.map (fun other => if other.1 = key then (key, value) else other) = rest :=
          (List.map_congr_left hother).trans (List.map_id' rest)
        rw [put, if_pos hkey, List.map_cons, if_pos hkey, hrest]
      · have hmem : key ∈ rest.map Prod.fst :=
          (List.mem_cons.mp h).resolve_left fun heq => hkey heq.symm
        rw [put, if_neg hkey, List.map_cons, if_neg hkey, ih hnodup.2 hmem]

/-- A key that is present keeps its place. -/
theorem entries_insert_of_mem {l : Ledger α} {key : String} {value : α} (h : key ∈ l.keys) :
    (l.insert key value).entries =
      l.entries.map fun entry => if entry.1 = key then (key, value) else entry :=
  put_of_mem l.nodup_keys h

theorem get?_erase (l : Ledger α) (key other : String) :
    (l.erase key).get? other = if key = other then none else l.get? other := by
  refine Option.ext fun value => ?_
  rw [get?_eq_some_iff, erase, List.mem_filter, ← get?_eq_some_iff]
  by_cases hkey : key = other
  · simp [hkey]
  · simp [hkey, Ne.symm hkey]

theorem erase_of_not_mem {l : Ledger α} {key : String} (h : key ∉ l.keys) : l.erase key = l := by
  refine ext_entries (List.filter_eq_self.mpr fun entry hentry => ?_)
  have hne : entry.1 ≠ key := fun heq => h (heq ▸ List.mem_map_of_mem hentry)
  simpa using hne

/-! ## Going through all entries -/

theorem fst_mapAccum (f : σ → String → α → σ × β) (s : σ) (entries : List (String × α)) :
    (mapAccum f s entries).1 = entries.foldl (fun s entry => (f s entry.1 entry.2).1) s := by
  induction entries generalizing s with
  | nil => rfl
  | cons entry rest ih => exact ih _

theorem snd_mapAccum {f : σ → String → α → σ × β} {g : String → α → β}
    (hvalue : ∀ s key value, (f s key value).2 = g key value) (s : σ)
    (entries : List (String × α)) :
    (mapAccum f s entries).2 = entries.map fun entry => (entry.1, g entry.1 entry.2) := by
  induction entries generalizing s with
  | nil => rfl
  | cons entry rest ih => simp only [mapAccum, List.map_cons, hvalue, ih]

theorem fst_traverse (f : σ → String → α → σ × β) (s : σ) (l : Ledger α) :
    (l.traverse f s).1 = l.entries.foldl (fun s entry => (f s entry.1 entry.2).1) s :=
  fst_mapAccum f s l.entries

/-- Where the new value does not depend on the state, a traversal changes values one by one. -/
theorem snd_traverse {f : σ → String → α → σ × β} {g : String → α → β}
    (hvalue : ∀ s key value, (f s key value).2 = g key value) (s : σ) (l : Ledger α) :
    (l.traverse f s).2 = l.mapValues g :=
  ext_entries (snd_mapAccum hvalue s l.entries)

theorem mapAccum_map {γ : Type} (f : σ → String → β → σ × γ) (g : String → α → β) (s : σ)
    (entries : List (String × α)) :
    mapAccum f s (entries.map fun entry => (entry.1, g entry.1 entry.2)) =
      mapAccum (fun s key value => f s key (g key value)) s entries := by
  induction entries generalizing s with
  | nil => rfl
  | cons entry rest ih => simp only [List.map_cons, mapAccum, ih]

/-- Values may be changed before a traversal or in the course of it. -/
theorem traverse_mapValues {γ : Type} (f : σ → String → β → σ × γ) (g : String → α → β) (s : σ)
    (l : Ledger α) :
    (l.mapValues g).traverse f s = l.traverse (fun s key value => f s key (g key value)) s := by
  have hentries := mapAccum_map f g s l.entries
  have hfst := congrArg Prod.fst hentries
  have hsnd := congrArg Prod.snd hentries
  exact Prod.ext hfst (ext_entries hsnd)

/-! ## Sums over the values -/

theorem sum_map_modify {key : String} {value : α} (f : α → α) (weight : α → Nat)
    {entries : List (String × α)} (hnodup : (entries.map Prod.fst).Nodup)
    (h : find? key entries = some value) :
    (entries.map fun entry => weight (if entry.1 = key then f entry.2 else entry.2)).foldr
        (· + ·) 0 + weight value =
      (entries.map fun entry => weight entry.2).foldr (· + ·) 0 + weight (f value) := by
  induction entries with
  | nil => simp [find?] at h
  | cons entry rest ih =>
      rw [List.map_cons, List.nodup_cons] at hnodup
      by_cases hkey : entry.1 = key
      · have hvalue : entry.2 = value := by
          rw [find?, if_pos hkey] at h
          exact Option.some_inj.mp h
        -- no later entry has the key, so the change leaves them alone
        have hrest : (rest.map fun entry => weight (if entry.1 = key then f entry.2 else entry.2)) =
            rest.map fun entry => weight entry.2 := by
          refine List.map_congr_left fun other hother => ?_
          have hne : other.1 ≠ key := by
            intro heq
            exact hnodup.1 (hkey ▸ heq ▸ List.mem_map_of_mem (f := Prod.fst) hother)
          rw [if_neg hne]
        simp only [List.map_cons, List.foldr_cons, hrest, if_pos hkey, hvalue]
        omega
      · rw [find?, if_neg hkey] at h
        have hrest := ih hnodup.2 h
        simp only [List.map_cons, List.foldr_cons, if_neg hkey]
        omega

/-- Changing the value under a key changes its summand and no other. -/
theorem sum_values_modify {l : Ledger α} {key : String} {value : α} (f : α → α)
    (weight : α → Nat) (h : l.get? key = some value) :
    ((l.modify key f).values.map weight).foldr (· + ·) 0 + weight value =
      (l.values.map weight).foldr (· + ·) 0 + weight (f value) := by
  have hsum := sum_map_modify f weight l.nodup_keys h
  simpa only [modify, mapValues, values, List.map_map, Function.comp_def] using hsum

end PluginOrder.Ledger
