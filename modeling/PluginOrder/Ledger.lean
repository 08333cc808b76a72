/-!
# Insertion-ordered maps with text keys

A ledger is a finite map from text to values that remembers the order in which its keys were
first written.  Writing to a key that is present replaces the value and keeps the position;
removing a key and writing it again moves it to the end.

The list of entries is the view: every operation says what it does to `entries`, `keys` or
`get?`, and distinctness of the keys is part of the type.
-/

namespace PluginOrder

/-- A map with text keys, in the order of each key's first writing. -/
structure Ledger (α : Type) where
  /-- The keys with their values, oldest key first. -/
  entries : List (String × α)
  /-- No key occurs twice. -/
  nodup_keys : (entries.map Prod.fst).Nodup

namespace Ledger

variable {α β : Type}

/-! ### Operations on the list of entries -/

/-- Replaces the value of `key` where it stands, or appends the pair. -/
def put (key : String) (value : α) : List (String × α) → List (String × α)
  | [] => [(key, value)]
  | entry :: rest =>
    if entry.1 = key then (key, value) :: rest else entry :: put key value rest

/-- The value standing under `key`. -/
def find? (key : String) : List (String × α) → Option α
  | [] => none
  | entry :: rest => if entry.1 = key then some entry.2 else find? key rest

theorem keys_put (key : String) (value : α) (entries : List (String × α)) :
    (put key value entries).map Prod.fst =
      if key ∈ entries.map Prod.fst then entries.map Prod.fst
      else entries.map Prod.fst ++ [key] := by
  induction entries with
  | nil => simp [put]
  | cons entry rest ih =>
    by_cases h : entry.1 = key
    · simp [put, h]
    · have h' : ¬ key = entry.1 := fun e => h e.symm
      by_cases hm : key ∈ rest.map Prod.fst
      · simp only [put, if_neg h, List.map_cons, ih, List.mem_cons, hm, or_true, if_true]
      · simp only [put, if_neg h, List.map_cons, ih, List.mem_cons, h', hm, or_self, if_false,
          List.cons_append]

theorem nodup_keys_put {key : String} {value : α} {entries : List (String × α)}
    (h : (entries.map Prod.fst).Nodup) : ((put key value entries).map Prod.fst).Nodup := by
  rw [keys_put]
  split
  · exact h
  · rename_i hk
    refine List.nodup_append.2 ⟨h, by simp, ?_⟩
    intro a ha b hb
    simp only [List.mem_singleton] at hb
    exact fun e => hk (hb ▸ e ▸ ha)

theorem find?_put (key other : String) (value : α) (entries : List (String × α)) :
    find? other (put key value entries) =
      if key = other then some value else find? other entries := by
  induction entries with
  | nil => simp [put, find?]
  | cons entry rest ih =>
    by_cases h : entry.1 = key
    · by_cases hk : key = other
      · simp [put, find?, h, hk]
      · simp [put, find?, h, hk]
    · rw [put, if_neg h, find?, find?]
      by_cases he : entry.1 = other
      · have : ¬ key = other := fun e => h (he.trans e.symm)
        simp [he, this]
      · simp [he, ih]

/-! ### Ledgers -/

/-- The ledger without keys. -/
def empty : Ledger α := ⟨[], by simp⟩

instance : EmptyCollection (Ledger α) := ⟨empty⟩

instance : Inhabited (Ledger α) := ⟨empty⟩

/-- The keys, oldest first. -/
def keys (l : Ledger α) : List String := l.entries.map Prod.fst

/-- The values, in the order of their keys. -/
def values (l : Ledger α) : List α := l.entries.map Prod.snd

/-- The number of keys. -/
def size (l : Ledger α) : Nat := l.entries.length

/-- The value under a key. -/
def get? (l : Ledger α) (key : String) : Option α := find? key l.entries

/-- Whether a key is present. -/
def contains (l : Ledger α) (key : String) : Bool := (l.get? key).isSome

/-- Writes a value under a key: in place if the key is present, at the end otherwise. -/
def insert (l : Ledger α) (key : String) (value : α) : Ledger α :=
  ⟨put key value l.entries, nodup_keys_put l.nodup_keys⟩

/-- Writes a value only if the key is absent. -/
def ensure (l : Ledger α) (key : String) (value : α) : Ledger α :=
  if l.contains key then l else l.insert key value

/-- Removes a key. -/
def erase (l : Ledger α) (key : String) : Ledger α :=
  ⟨l.entries.filter (fun entry => entry.1 ≠ key),
    (l.nodup_keys.sublist (List.filter_sublist.map Prod.fst))⟩

/-- Changes every value, keys and order staying as they are. -/
def mapValues (f : String → α → β) (l : Ledger α) : Ledger β :=
  ⟨l.entries.map (fun entry => (entry.1, f entry.1 entry.2)), by
    simpa [List.map_map, Function.comp_def] using l.nodup_keys⟩

/-- Changes the value under a key, if there is one. -/
def modify (l : Ledger α) (key : String) (f : α → α) : Ledger α :=
  l.mapValues fun k value => if k = key then f value else value

/-- Carries a state along the entries, oldest first, and changes every value on the way. -/
def mapAccum {σ : Type} (f : σ → String → α → σ × β) : σ → List (String × α) →
    σ × List (String × β)
  | s, [] => (s, [])
  | s, entry :: rest =>
    let (s, value) := f s entry.1 entry.2
    let (s, others) := mapAccum f s rest
    (s, (entry.1, value) :: others)

theorem keys_mapAccum {σ : Type} (f : σ → String → α → σ × β) (s : σ)
    (entries : List (String × α)) :
    (mapAccum f s entries).2.map Prod.fst = entries.map Prod.fst := by
  induction entries generalizing s with
  | nil => rfl
  | cons entry rest ih => simp [mapAccum, ih]

/-- Carries a state along a ledger, oldest entry first, and changes every value on the way. -/
def traverse {σ : Type} (f : σ → String → α → σ × β) (s : σ) (l : Ledger α) : σ × Ledger β :=
  ((mapAccum f s l.entries).1,
    ⟨(mapAccum f s l.entries).2, by rw [keys_mapAccum]; exact l.nodup_keys⟩)

/-- The ledger of a list of pairs, later pairs replacing earlier ones of the same key. -/
def ofList (pairs : List (String × α)) : Ledger α :=
  pairs.foldl (fun l pair => l.insert pair.1 pair.2) empty

@[simp] theorem keys_empty : (empty : Ledger α).keys = [] := rfl

@[simp] theorem get?_empty (key : String) : (empty : Ledger α).get? key = none := rfl

theorem keys_insert (l : Ledger α) (key : String) (value : α) :
    (l.insert key value).keys = if key ∈ l.keys then l.keys else l.keys ++ [key] :=
  keys_put key value l.entries

theorem get?_insert (l : Ledger α) (key other : String) (value : α) :
    (l.insert key value).get? other = if key = other then some value else l.get? other :=
  find?_put key other value l.entries

@[simp] theorem keys_mapValues (f : String → α → β) (l : Ledger α) :
    (l.mapValues f).keys = l.keys := by
  simp [keys, mapValues, List.map_map, Function.comp_def]

@[simp] theorem keys_modify (l : Ledger α) (key : String) (f : α → α) :
    (l.modify key f).keys = l.keys := keys_mapValues _ l

@[simp] theorem keys_traverse {σ : Type} (f : σ → String → α → σ × β) (s : σ) (l : Ledger α) :
    (l.traverse f s).2.keys = l.keys := keys_mapAccum f s l.entries

theorem ext_entries {l m : Ledger α} (h : l.entries = m.entries) : l = m := by
  cases l; cases m; cases h; rfl

end Ledger

end PluginOrder
