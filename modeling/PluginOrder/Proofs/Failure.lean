import Mathlib.Data.List.Basic

/-!
# What computations give and how they fail

`Meets post allowed x` says of a computation that may fail that its result has one property and its
fault another one, and `Keeps inv allowed post m` says the same of a step with a state, from every
state with an invariant, which the step keeps.  Both pass from the parts of a computation to the
whole (`Meets.bind`, `Keeps.bind`), so a reader written in many steps needs one short lemma for each
of them.
-/

namespace PluginOrder

variable {α β σ ε : Type}

/-- A result has the property `post`, and a fault the property `allowed`. -/
def Meets (post : α → Prop) (allowed : ε → Prop) : Except ε α → Prop
  | .ok a => post a
  | .error fault => allowed fault

section

variable {post p : α → Prop} {q : β → Prop} {allowed possible : ε → Prop} {x : Except ε α}

theorem Meets.weaken (h : Meets p possible x) (hpost : ∀ a, p a → post a)
    (hallowed : ∀ fault, possible fault → allowed fault) : Meets post allowed x := by
  cases x with
  | ok a => exact hpost a h
  | error fault => exact hallowed fault h

theorem Meets.bind {f : α → Except ε β} (hx : Meets p allowed x)
    (hf : ∀ a, p a → Meets q allowed (f a)) : Meets q allowed (x >>= f) := by
  cases x with
  | ok a => exact hf a hx
  | error fault => exact hx

theorem Meets.map {f : α → β} (hx : Meets p allowed x) (hf : ∀ a, p a → q (f a)) :
    Meets q allowed (x.map f) := by
  cases x with
  | ok a => exact hf a hx
  | error fault => exact hx

theorem Meets.ite {c : Prop} [Decidable c] {y : Except ε α} (hx : c → Meets post allowed x)
    (hy : ¬c → Meets post allowed y) : Meets post allowed (if c then x else y) := by
  by_cases hc : c
  · rw [if_pos hc]
    exact hx hc
  · rw [if_neg hc]
    exact hy hc

theorem Meets.fault {fault : ε} (h : Meets post allowed x) (hfault : x = .error fault) :
    allowed fault := by
  rw [hfault] at h
  exact h

theorem Meets.result {a : α} (h : Meets post allowed x) (hresult : x = .ok a) : post a := by
  rw [hresult] at h
  exact h

end

/-- From a state with the invariant a step leads to one with the invariant and gives a result with
the property `post`, or fails with a fault that has the property `allowed`. -/
def Keeps (inv : σ → Prop) (allowed : ε → Prop) (post : α → Prop)
    (m : StateT σ (Except ε) α) : Prop :=
  ∀ s, inv s → Meets (fun found => post found.1 ∧ inv found.2) allowed (m.run s)

namespace Keeps

variable {inv : σ → Prop} {allowed : ε → Prop} {post p : α → Prop} {q : β → Prop}

theorem pure {a : α} (h : p a) : Keeps inv allowed p (Pure.pure a) := fun _ hs => ⟨h, hs⟩

theorem throw {fault : ε} (h : allowed fault) :
    Keeps inv allowed post (MonadExcept.throw fault : StateT σ (Except ε) α) := fun _ _ => h

theorem get : Keeps inv allowed inv (MonadState.get : StateT σ (Except ε) σ) := fun _ hs => ⟨hs, hs⟩

theorem update {f : σ → σ} (h : ∀ s, inv s → inv (f s)) :
    Keeps inv allowed (fun _ => True) (modify f : StateT σ (Except ε) PUnit) :=
  fun s hs => ⟨trivial, h s hs⟩

theorem weaken {m : StateT σ (Except ε) α} (h : Keeps inv allowed p m) (hpost : ∀ a, p a → post a) :
    Keeps inv allowed post m := by
  intro s hs
  exact (h s hs).weaken (fun _ hfound => ⟨hpost _ hfound.1, hfound.2⟩) fun _ hfault => hfault

theorem bind {m : StateT σ (Except ε) α} {f : α → StateT σ (Except ε) β}
    (hm : Keeps inv allowed p m)
    (hf : ∀ a, p a → Keeps inv allowed q (f a)) : Keeps inv allowed q (m >>= f) :=
  fun s hs => (hm s hs).bind fun found hfound => hf found.1 hfound.1 found.2 hfound.2

theorem mapM {f : α → StateT σ (Except ε) β} {items : List α}
    (h : ∀ item ∈ items, Keeps inv allowed q (f item)) :
    Keeps inv allowed (fun results => ∀ result ∈ results, q result) (items.mapM f) := by
  induction items with
  | nil => exact pure (by simp)
  | cons item rest ih =>
      rw [List.mapM_cons]
      refine (h item List.mem_cons_self).bind fun first hfirst => ?_
      have hrest := ih fun other hother => h other (List.mem_cons_of_mem _ hother)
      refine hrest.bind fun others hothers => ?_
      exact pure (List.forall_mem_cons.mpr ⟨hfirst, hothers⟩)

/-- A loop keeps the invariant if every turn of it does. -/
theorem forIn {items : List α} {f : α → β → StateT σ (Except ε) (ForInStep β)} {init : β}
    (h : ∀ item ∈ items, ∀ b, q b → Keeps inv allowed (fun step => q step.value) (f item b))
    (hinit : q init) : Keeps inv allowed q (ForIn.forIn items init f) := by
  induction items generalizing init with
  | nil => exact pure hinit
  | cons item rest ih =>
      rw [List.forIn_cons]
      refine (h item List.mem_cons_self init hinit).bind fun step hstep => ?_
      cases step with
      | done b => exact pure hstep
      | yield b => exact ih (fun other hother => h other (List.mem_cons_of_mem _ hother)) hstep

theorem forM {items : List α} {f : α → StateT σ (Except ε) PUnit}
    (h : ∀ item ∈ items, Keeps inv allowed (fun _ => True) (f item)) :
    Keeps inv allowed (fun _ => True) (items.forM f) := by
  induction items with
  | nil => exact pure trivial
  | cons item rest ih =>
      show Keeps inv allowed _ (f item >>= fun _ => rest.forM f)
      refine (h item List.mem_cons_self).bind fun _ _ => ?_
      exact ih fun other hother => h other (List.mem_cons_of_mem _ hother)

theorem put {s : σ} (h : inv s) :
    Keeps inv allowed (fun _ => True) (set s : StateT σ (Except ε) PUnit) :=
  fun _ _ => ⟨trivial, h⟩

theorem lift {x : Except ε α} (h : Meets post allowed x) :
    Keeps inv allowed post (liftM x : StateT σ (Except ε) α) := by
  intro s hs
  cases x with
  | ok a => exact ⟨h, hs⟩
  | error fault => exact h

end Keeps

end PluginOrder
