import PluginOrder.Proofs.Ledger.Lookup
import PluginOrder.Session
import Mathlib.Data.List.Basic
import Mathlib.Data.List.Induction

/-!
# Who is registered, by the history

What a registry holds can be read off the steps that were taken, one identifier at a time.  The
*tenure* of an identifier begins with the first registration since it was last absent.  Another
plugin may take over in the course of it, and it ends when the identifier is removed or everything
is.

The *roll* of a history lists the tenures that last, by the time at which they began.  It never
looks at a registry, and still a registry that starts empty is the roll of its history at any time
(`Tells.change` for one step): replacing a plugin leaves its tenure, so it keeps its place, and
whoever is removed and registered again begins a new one, at the end.
-/

namespace PluginOrder

/-- The time for which an identifier is taken without a break, and the plugin that has it now. -/
structure Tenure (n : Nat) where
  since : Nat
  handle : Fin n

/-- The steps that were taken in a session, first one first. -/
abbrev History (n : Nat) := List (Step n)

variable {n : Nat} (identify : Fin n → String)

/-- What comes of the tenure of an identifier in a step that is taken at some time. -/
def Tenure.next (id : String) (now : Option (Tenure n)) (time : Nat) : Step n → Option (Tenure n)
  | .register handle replace =>
    if identify handle = id then
      match now with
      | none => some ⟨time, handle⟩
      | some tenure => some (if replace then { tenure with handle } else tenure)
    else now
  | .unregister (.text key) => if key = id then none else now
  | .clear => none
  | _ => now

variable {identify} in
/-- A tenure that lasts after a step is as it was, begins with the step, or passes to another
plugin. -/
theorem Tenure.of_next {id : String} {now : Option (Tenure n)} {time : Nat} {step : Step n}
    {tenure : Tenure n} (h : Tenure.next identify id now time step = some tenure) :
    now = some tenure ∨
      (identify tenure.handle = id ∧
        ((now = none ∧ tenure.since = time) ∨
          ∃ before, now = some before ∧ tenure.since = before.since)) := by
  unfold Tenure.next at h
  split at h
  · rename_i handle replace
    split at h
    · rename_i hid
      split at h
      · cases h
        exact Or.inr ⟨hid, Or.inl ⟨rfl, rfl⟩⟩
      · rename_i before
        cases replace with
        | false => exact Or.inl h
        | true =>
            cases h
            exact Or.inr ⟨hid, Or.inr ⟨before, rfl, rfl⟩⟩
    · exact Or.inl h
  · split at h
    · cases h
    · exact Or.inl h
  · cases h
  · exact Or.inl h

/-- What a step makes of a registry. -/
def Registry.change (r : Registry n) : Step n → Registry n
  | .register handle replace =>
    if r.contains (identify handle) && !replace then r else r.insert (identify handle) handle
  | .unregister (.text key) => r.erase key
  | .clear => ∅
  | _ => r

namespace History

/-- The tenure of an identifier after a history, if it is taken. -/
def standing (history : History n) (id : String) : Option (Tenure n) :=
  history.zipIdx.foldl (fun now (step, time) => Tenure.next identify id now time step) none

/-- What an identifier is on the roll with, if its tenure began at some time. -/
def begunAt (id : String) (time : Nat) : Option (Tenure n) → Option (String × Fin n)
  | some tenure => if tenure.since = time then some (id, tenure.handle) else none
  | none => none

/-- What a step puts on the roll, if the tenure that began with it lasts. -/
def begun (standing : String → Option (Tenure n)) : Step n × Nat → Option (String × Fin n)
  | (.register handle _, time) => begunAt (identify handle) time (standing (identify handle))
  | _ => none

/-- The identifiers that are taken and the plugins that have them, by the beginning of the
tenure. -/
def roll (history : History n) : List (String × Fin n) :=
  history.zipIdx.filterMap (begun identify (history.standing identify))

variable {identify} {history : History n} {step : Step n}

theorem standing_append (id : String) :
    standing identify (history ++ [step]) id =
      Tenure.next identify id (standing identify history id) history.length step := by
  simp only [standing, List.zipIdx_append, List.foldl_append, List.zipIdx_singleton, Nat.zero_add,
    List.foldl_cons, List.foldl_nil]

/-- A registration only touches the tenure of the plugin's identifier. -/
theorem standing_register {handle : Fin n} {replace : Bool} {now : Option (Tenure n)}
    (h : Tenure.next identify (identify handle) (standing identify history (identify handle))
      history.length (.register handle replace) = now) (id : String) :
    standing identify (history ++ [.register handle replace]) id =
      if identify handle = id then now else standing identify history id := by
  rw [standing_append]
  by_cases hid : identify handle = id
  · rw [if_pos hid, ← hid, h]
  · rw [if_neg hid]
    exact if_neg hid

theorem standing_eq_some {id : String} {tenure : Tenure n}
    (h : standing identify history id = some tenure) :
    tenure.since < history.length ∧ identify tenure.handle = id := by
  induction history using List.reverseRecOn generalizing tenure with
  | nil => cases h
  | append_singleton history step ih =>
      rw [standing_append] at h
      rw [List.length_append, List.length_singleton]
      rcases Tenure.of_next h with hkept | ⟨hid, ⟨_, hbegun⟩ | ⟨before, hbefore, hpassed⟩⟩
      · exact ⟨Nat.lt_succ_of_lt (ih hkept).1, (ih hkept).2⟩
      · exact ⟨by omega, hid⟩
      · have hlt := (ih hbefore).1
        exact ⟨by omega, hid⟩

theorem begunAt_eq_none {id : String} {time : Nat} {now : Option (Tenure n)}
    (h : ∀ tenure, now = some tenure → tenure.since ≠ time) : begunAt id time now = none := by
  cases now with
  | none => rfl
  | some tenure => exact if_neg (h tenure rfl)

theorem filter_begunAt (key id : String) (time : Nat) (now : Option (Tenure n)) :
    (begunAt id time now).filter (fun entry => entry.1 ≠ key) =
      if key = id then none else begunAt id time now := by
  unfold begunAt
  grind

theorem map_begunAt (key id : String) (time : Nat) (handle : Fin n) (now : Option (Tenure n)) :
    (begunAt id time now).map (fun entry => if entry.1 = key then (key, handle) else entry) =
      begunAt id time (if key = id then now.map ({ · with handle }) else now) := by
  unfold begunAt
  grind

theorem roll_append : roll identify (history ++ [step]) =
    history.zipIdx.filterMap (begun identify (standing identify (history ++ [step]))) ++
      (begun identify (standing identify (history ++ [step])) (step, history.length)).toList := by
  rw [roll, List.zipIdx_append, List.filterMap_append]
  cases hbegun : begun identify (standing identify (history ++ [step])) (step, history.length) <;>
    simp [hbegun]

/-- What the earlier steps put on the roll changes with the tenures that began with them. -/
theorem filterMap_begun {standing' : String → Option (Tenure n)}
    {f : Option (String × Fin n) → Option (String × Fin n)} (hnone : f none = none)
    (h : ∀ id, ∀ time < history.length,
      begunAt id time (standing' id) = f (begunAt id time (standing identify history id))) :
    history.zipIdx.filterMap (begun identify standing') =
      history.zipIdx.filterMap fun entry =>
        f (begun identify (standing identify history) entry) := by
  refine List.filterMap_congr fun (step, time) hentry => ?_
  have hlt : time < history.length :=
    (List.getElem?_eq_some_iff.mp (List.mk_mem_zipIdx_iff_getElem?.mp hentry)).1
  cases step with
  | register handle _ => exact h (identify handle) time hlt
  | _ => exact hnone.symm

/-! ## Registries and their histories -/

variable (identify history) in
/-- A registry is what its history says. -/
structure Tells (r : Registry n) : Prop where
  get?_eq : ∀ id, r.get? id = (standing identify history id).map Tenure.handle
  entries_eq : r.entries = roll identify history

theorem tells_nil : Tells identify [] (∅ : Registry n) := ⟨fun _ => rfl, rfl⟩

namespace Tells

variable {r : Registry n} (h : Tells identify history r)

include h

theorem mem_keys_iff {id : String} :
    id ∈ r.keys ↔ ∃ tenure, standing identify history id = some tenure := by
  rw [Ledger.mem_keys_iff]
  simp only [h.get?_eq, Option.map_eq_some_iff]
  exact ⟨fun ⟨_, tenure, htenure, _⟩ => ⟨tenure, htenure⟩,
    fun ⟨tenure, htenure⟩ => ⟨_, tenure, htenure, rfl⟩⟩

theorem contains_eq (id : String) :
    r.contains id = (standing identify history id).isSome := by
  rw [Ledger.contains, h.get?_eq, Option.isSome_map]

/-- A step that touches no tenure. -/
theorem skip
    (hsame : ∀ id, standing identify (history ++ [step]) id = standing identify history id) :
    Tells identify (history ++ [step]) r := by
  have hlast : begun identify (standing identify history) (step, history.length) = none := by
    cases step with
    | register handle _ =>
        exact begunAt_eq_none fun tenure htenure => Nat.ne_of_lt (standing_eq_some htenure).1
    | _ => rfl
  refine ⟨fun id => by rw [hsame, h.get?_eq], ?_⟩
  rw [roll_append, funext hsame, hlast, Option.toList_none, List.append_nil, h.entries_eq]
  rfl

/-- A plugin takes an identifier that is free. -/
theorem enter {handle : Fin n} {replace : Bool}
    (hfree : standing identify history (identify handle) = none) :
    Tells identify (history ++ [.register handle replace]) (r.insert (identify handle) handle) := by
  have hstanding : ∀ id, standing identify (history ++ [.register handle replace]) id =
      if identify handle = id then some ⟨history.length, handle⟩
      else standing identify history id :=
    standing_register (by rw [hfree]; simp [Tenure.next])
  have habsent : identify handle ∉ r.keys := by
    rw [h.mem_keys_iff, hfree]
    rintro ⟨_, hsome⟩
    cases hsome
  have hold : history.zipIdx.filterMap
      (begun identify (standing identify (history ++ [.register handle replace]))) =
      roll identify history := by
    refine filterMap_begun (f := id) rfl fun id time hlt => ?_
    rw [hstanding]
    split
    · -- the identifier was free, and its tenure has not begun before
      rename_i hid
      rw [← hid, hfree]
      exact if_neg (Nat.ne_of_gt hlt)
    · rfl
  -- the tenure that begins with the step comes last
  have hnew : begun identify (standing identify (history ++ [.register handle replace]))
      (.register handle replace, history.length) = some (identify handle, handle) := by
    simp [begun, begunAt, hstanding]
  refine ⟨fun id => ?_, ?_⟩
  · rw [hstanding, Ledger.get?_insert, h.get?_eq]
    split <;> rfl
  · rw [Ledger.entries_insert habsent, roll_append, hold, hnew, h.entries_eq]
    rfl

/-- A plugin takes over an identifier that is taken. -/
theorem takeOver {handle : Fin n} {tenure : Tenure n}
    (htaken : standing identify history (identify handle) = some tenure) :
    Tells identify (history ++ [.register handle true]) (r.insert (identify handle) handle) := by
  have hstanding : ∀ id, standing identify (history ++ [.register handle true]) id =
      if identify handle = id then some { tenure with handle } else standing identify history id :=
    standing_register (by rw [htaken]; simp [Tenure.next])
  have hpresent : identify handle ∈ r.keys := h.mem_keys_iff.mpr ⟨tenure, htaken⟩
  -- the tenure goes on under another plugin, in its old place
  have hold : history.zipIdx.filterMap
      (begun identify (standing identify (history ++ [.register handle true]))) =
      (roll identify history).map fun entry =>
        if entry.1 = identify handle then (identify handle, handle) else entry := by
    rw [roll, List.map_filterMap]
    refine filterMap_begun rfl fun id time _ => ?_
    rw [hstanding, map_begunAt]
    split
    · rename_i hid
      rw [← hid, htaken]
      rfl
    · rfl
  -- and none begins with the step
  have hnew : begun identify (standing identify (history ++ [.register handle true]))
      (.register handle true, history.length) = none := by
    rw [begun, hstanding, if_pos rfl]
    exact if_neg (Nat.ne_of_lt (standing_eq_some htaken).1)
  refine ⟨fun id => ?_, ?_⟩
  · rw [hstanding, Ledger.get?_insert, h.get?_eq]
    split <;> rfl
  · rw [Ledger.entries_insert_of_mem hpresent, roll_append, hold, hnew, h.entries_eq,
      Option.toList_none, List.append_nil]

/-- An identifier is given up. -/
theorem leave (key : String) :
    Tells identify (history ++ [.unregister (.text key)]) (r.erase key) := by
  have hstanding : ∀ id, standing identify (history ++ [.unregister (.text key)]) id =
      if key = id then none else standing identify history id :=
    fun id => standing_append id
  have hold : history.zipIdx.filterMap
      (begun identify (standing identify (history ++ [.unregister (.text key)]))) =
      (roll identify history).filter fun entry => entry.1 ≠ key := by
    rw [roll, List.filter_filterMap]
    refine filterMap_begun rfl fun id time _ => ?_
    rw [hstanding, filter_begunAt]
    split <;> rfl
  refine ⟨fun id => ?_, ?_⟩
  · rw [hstanding, Ledger.get?_erase, h.get?_eq]
    split <;> rfl
  · rw [roll_append, hold, ← h.entries_eq]
    exact (List.append_nil _).symm

omit h in
/-- All identifiers are given up. -/
theorem vacate : Tells identify (history ++ [.clear]) (∅ : Registry n) := by
  have hstanding : ∀ id, standing identify (history ++ [.clear]) id = none :=
    fun id => standing_append id
  have hold : history.zipIdx.filterMap (begun identify (standing identify (history ++ [.clear]))) =
      [] := by
    rw [filterMap_begun (f := fun _ => none) rfl fun id time _ => by rw [hstanding]; rfl]
    exact List.filterMap_eq_nil_iff.mpr fun _ _ => rfl
  refine ⟨fun id => by rw [hstanding]; rfl, ?_⟩
  rw [roll_append, hold]
  rfl

/-- **A step takes the roll of a history to that of the longer history.** -/
theorem change (step : Step n) : Tells identify (history ++ [step]) (r.change identify step) := by
  cases step with
  | register handle replace =>
      have hcontains := h.contains_eq (identify handle)
      cases htaken : standing identify history (identify handle) with
      | none =>
          rw [htaken] at hcontains
          simp only [Registry.change, hcontains, Option.isSome_none, Bool.false_and]
          exact h.enter htaken
      | some tenure =>
          rw [htaken] at hcontains
          simp only [Registry.change, hcontains, Option.isSome_some, Bool.true_and]
          cases replace with
          | true => exact h.takeOver htaken
          | false =>
              have hkept : Tenure.next identify (identify handle) (some tenure) history.length
                  (.register handle false) = some tenure := by simp [Tenure.next]
              refine h.skip fun id => ?_
              rw [standing_register (htaken ▸ hkept)]
              split
              · rename_i hid
                rw [← hid, htaken]
              · rfl
  | unregister id =>
      cases id with
      | text key => exact h.leave key
      | _ => exact h.skip fun _ => standing_append _
  | clear => exact vacate
  | _ => exact h.skip fun _ => standing_append _

end Tells

end History

end PluginOrder
