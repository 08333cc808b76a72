import PluginOrder.Proofs.Walk.Termination
import Mathlib.Data.List.Chain

/-!
# The course of a sort

`Graph.sort` is written with fuel.  The loop itself has none: while the way is empty the next root
is entered, and otherwise a turn is taken, until the way is empty and no root is left.
`Walk.Course` is this loop as it stands, with all the walks that it comes through, so that one can
speak of earlier and later, and of how often something happens.

Every graph has exactly one course, and it ends as the sort does (`Graph.exists_course`).  Along a
course one walk moves to the next (`Graph.Course.isChain`), so every later walk is reached from
every earlier one (`Graph.Course.pairwise`), and all of them from the start
(`Graph.Course.reaches`).
-/

namespace PluginOrder

namespace Walk

/-- Whether the node under a key was left before. -/
def visited? (w : Walk) (key : String) : Option Bool := (w.nodes.get? key).map (·.visited)

/-- The verdict on the node under a key. -/
def verdict? (w : Walk) (key : String) : Option Bool := (w.nodes.get? key).map (·.valid)

/-- The loop that visits roots, with the walks from which it takes its steps, the first one first,
and its result.  Every walk with a way that is not empty takes one turn. -/
inductive Course : List String → Walk → List Walk → Except Halt Walk → Prop
  | done {w : Walk} (hstack : w.stack = []) : Course [] w [w] (.ok w)
  | root {key : String} {roots : List String} {w next : Walk} {ws : List Walk}
      {result : Except Halt Walk} (hstack : w.stack = [])
      (henter : w.enter key true none = .ok next)
      (hrest : Course roots next ws result) : Course (key :: roots) w (w :: ws) result
  | rootHalt {key : String} {roots : List String} {w : Walk} {halt : Halt} (hstack : w.stack = [])
      (henter : w.enter key true none = .error halt) : Course (key :: roots) w [w] (.error halt)
  | turn {roots : List String} {w next : Walk} {ws : List Walk} {result : Except Halt Walk}
      (hstack : w.stack ≠ []) (hstep : w.step = .ok next) (hrest : Course roots next ws result) :
      Course roots w (w :: ws) result
  | turnHalt {roots : List String} {w : Walk} {halt : Halt} (hstack : w.stack ≠ [])
      (hstep : w.step = .error halt) : Course roots w [w] (.error halt)

variable {roots : List String} {w : Walk} {ws : List Walk} {result : Except Halt Walk}

namespace Course

theorem head?_eq (h : Course roots w ws result) : ws.head? = some w := by
  cases h <;> rfl

/-! ## There is exactly one course -/

/-- The next step is decided by the walk. -/
theorem unique (h : Course roots w ws result) {ws' : List Walk} {result' : Except Halt Walk}
    (h' : Course roots w ws' result') : ws' = ws ∧ result' = result := by
  induction h generalizing ws' result' with
  | done hstack =>
      cases h' with
      | done _ => exact ⟨rfl, rfl⟩
      | turn hstack' _ _ | turnHalt hstack' _ => exact absurd hstack hstack'
  | root hstack henter _ ih =>
      cases h' with
      | root _ henter' hrest' =>
          rw [henter] at henter'
          cases henter'
          obtain ⟨rfl, rfl⟩ := ih hrest'
          exact ⟨rfl, rfl⟩
      | rootHalt _ henter' =>
          rw [henter] at henter'
          cases henter'
      | turn hstack' _ _ | turnHalt hstack' _ => exact absurd hstack hstack'
  | rootHalt hstack henter =>
      cases h' with
      | root _ henter' _ =>
          rw [henter] at henter'
          cases henter'
      | rootHalt _ henter' =>
          rw [henter] at henter'
          cases henter'
          exact ⟨rfl, rfl⟩
      | turn hstack' _ _ | turnHalt hstack' _ => exact absurd hstack hstack'
  | turn hstack hstep _ ih =>
      cases h' with
      | done hstack' | root hstack' _ _ | rootHalt hstack' _ => exact absurd hstack' hstack
      | turn _ hstep' hrest' =>
          rw [hstep] at hstep'
          cases hstep'
          obtain ⟨rfl, rfl⟩ := ih hrest'
          exact ⟨rfl, rfl⟩
      | turnHalt _ hstep' =>
          rw [hstep] at hstep'
          cases hstep'
  | turnHalt hstack hstep =>
      cases h' with
      | done hstack' | root hstack' _ _ | rootHalt hstack' _ => exact absurd hstack' hstack
      | turn _ hstep' _ =>
          rw [hstep] at hstep'
          cases hstep'
      | turnHalt _ hstep' =>
          rw [hstep] at hstep'
          cases hstep'
          exact ⟨rfl, rfl⟩

/-- Turns are taken until the way is empty; then the roots that are left have their course. -/
theorem exists_of_drain (hrest : ∀ next, w.drain = .ok next → next.stack = [] →
      ∃ ws, Course roots next ws (visitAll roots next)) :
    ∃ ws, Course roots w ws (w.drain.bind (visitAll roots)) := by
  induction hsize : w.potential using Nat.strong_induction_on generalizing w with
  | _ size ih =>
      by_cases hstack : w.stack = []
      · rw [drain_of_stack_nil hstack]
        exact hrest w (drain_of_stack_nil hstack) hstack
      · have hdrain := drain_of_stack_ne_nil hstack
        cases hstep : w.step with
        | error halt =>
            rw [hdrain, hstep]
            exact ⟨[w], .turnHalt hstack hstep⟩
        | ok next =>
            rw [hstep] at hdrain
            -- the potential falls with every turn
            have hlt : next.potential < size := by
              rw [← hsize]
              exact potential_lt_of_move hstack (move_of_step hstack hstep)
            have hsame : w.drain = next.drain := hdrain
            rw [hsame] at hrest ⊢
            obtain ⟨ws, hcourse⟩ := ih next.potential hlt hrest rfl
            exact ⟨w :: ws, .turn hstack hstep hcourse⟩

theorem exists_of_roots (roots : List String) (hstack : w.stack = []) :
    ∃ ws, Course roots w ws (visitAll roots w) := by
  induction roots generalizing w with
  | nil => exact ⟨[w], .done hstack⟩
  | cons key roots ih =>
      cases henter : w.enter key true none with
      | error halt =>
          have hend : visitAll (key :: roots) w = .error halt := by
            simp only [visitAll, visit, henter]
          rw [hend]
          exact ⟨[w], .rootHalt hstack henter⟩
      | ok next =>
          have hend : visitAll (key :: roots) w = next.drain.bind (visitAll roots) := by
            simp only [visitAll, visit, henter]
            cases next.drain <;> rfl
          rw [hend]
          have hdrained : ∃ ws, Course roots next ws (next.drain.bind (visitAll roots)) :=
            exists_of_drain fun _ _ hempty => ih hempty
          obtain ⟨ws, hcourse⟩ := hdrained
          exact ⟨w :: ws, .root hstack henter hcourse⟩

/-! ## Along a course -/

/-- On a course every walk moves to the next one. -/
theorem isChain (h : Course roots w ws result) (hroots : ∀ key ∈ roots, key ∈ w.nodes.keys) :
    ws.IsChain Move := by
  induction h with
  | done _ | rootHalt _ _ | turnHalt _ _ => exact List.isChain_singleton _
  | root hstack henter hrest ih =>
      rw [List.forall_mem_cons] at hroots
      have hmove := move_of_enter hstack hroots.1 henter
      have hlater := ih (by rw [hmove.keys]; exact hroots.2)
      refine List.isChain_cons.mpr ⟨?_, hlater⟩
      intro next hnext
      rw [hrest.head?_eq] at hnext
      cases hnext
      exact hmove
  | turn hstack hstep hrest ih =>
      have hmove := move_of_step hstack hstep
      have hlater := ih (by rw [hmove.keys]; exact hroots)
      refine List.isChain_cons.mpr ⟨?_, hlater⟩
      intro next hnext
      rw [hrest.head?_eq] at hnext
      cases hnext
      exact hmove

/-- A course that fails ends with a walk that halts. -/
theorem exists_stop {halt : Halt} (h : Course roots w ws (.error halt))
    (hroots : ∀ key ∈ roots, key ∈ w.nodes.keys) :
    ∃ last, ws.getLast? = some last ∧ last.Stop halt := by
  generalize hresult : Except.error halt = result at h
  induction h with
  | done _ => cases hresult
  | root hstack henter _ ih =>
      rw [List.forall_mem_cons] at hroots
      have hkeys := (move_of_enter hstack hroots.1 henter).keys
      obtain ⟨last, hlast, hstop⟩ := ih (by rw [hkeys]; exact hroots.2) hresult
      exact ⟨last, by rw [List.getLast?_cons, hlast]; rfl, hstop⟩
  | rootHalt hstack henter =>
      cases hresult
      exact ⟨_, rfl, stop_of_enter hstack (hroots _ List.mem_cons_self) henter⟩
  | turn hstack hstep _ ih =>
      have hkeys := (move_of_step hstack hstep).keys
      obtain ⟨last, hlast, hstop⟩ := ih (by rw [hkeys]; exact hroots) hresult
      exact ⟨last, by rw [List.getLast?_cons, hlast]; rfl, hstop⟩
  | turnHalt hstack hstep =>
      cases hresult
      exact ⟨_, rfl, stop_of_step hstack hstep⟩

/-- A course that succeeds ends with its result. -/
theorem getLast?_eq {last : Walk} (h : Course roots w ws (.ok last)) : ws.getLast? = some last := by
  generalize hresult : Except.ok last = result at h
  induction h with
  | done _ =>
      cases hresult
      rfl
  | rootHalt _ _ | turnHalt _ _ => cases hresult
  | root _ _ _ ih | turn _ _ _ ih => rw [List.getLast?_cons, ih hresult, Option.getD_some]

end Course

/-- In a row of moves, every later walk is reached from every earlier one. -/
theorem pairwise_of_isChain (h : ws.IsChain Move) : ws.Pairwise (Relation.ReflTransGen Move) :=
  List.isChain_iff_pairwise.mp (h.imp fun _ _ hmove => Relation.ReflTransGen.single hmove)

end Walk

namespace Graph

/-- The course of a sort: the loop over all nodes as roots, in the order of the graph. -/
def Course (g : Graph) (ws : List Walk) (result : Except Halt Walk) : Prop :=
  Walk.Course g.keys (.start g) ws result

variable {g : Graph} {ws : List Walk} {result : Except Halt Walk}

/-- **A sort has exactly one course.**  It ends, with the result of the sort. -/
theorem exists_course (g : Graph) :
    ∃ ws, ∀ ws' result, g.Course ws' result ↔ ws' = ws ∧ result = g.sort := by
  have hstart : (Walk.start g).stack = [] := rfl
  obtain ⟨ws, hcourse⟩ := Walk.Course.exists_of_roots g.keys hstart
  refine ⟨ws, fun ws' result => ⟨fun h => hcourse.unique h, ?_⟩⟩
  rintro ⟨rfl, rfl⟩
  exact hcourse

namespace Course

variable (h : g.Course ws result)

include h

theorem isChain : ws.IsChain Walk.Move := Walk.Course.isChain h fun _ hkey => hkey

theorem pairwise : ws.Pairwise (Relation.ReflTransGen Walk.Move) :=
  Walk.pairwise_of_isChain h.isChain

theorem reaches {w : Walk} (hw : w ∈ ws) : g.Reaches w := by
  have hhead := Walk.Course.head?_eq h
  cases hws : ws with
  | nil => simp [hws] at hhead
  | cons first rest =>
      have hfirst : first = .start g := by simpa [hws] using hhead
      have hpairwise := h.pairwise
      rw [hws] at hw hpairwise
      rcases List.mem_cons.mp hw with rfl | hlater
      · rw [hfirst]
        exact .refl
      · rw [hfirst] at hpairwise
        exact (List.pairwise_cons.mp hpairwise).1 w hlater

end Course

/-- Every walk of a course that succeeds can come to its result. -/
theorem Course.run_of_mem {w last : Walk} (h : g.Course ws (.ok last)) (hw : w ∈ ws) :
    Relation.ReflTransGen Walk.Move w last := by
  obtain ⟨front, hfront⟩ := List.getLast?_eq_some_iff.mp (Walk.Course.getLast?_eq h)
  have hpairwise := h.pairwise
  rw [hfront] at hw hpairwise
  rcases List.mem_append.mp hw with hbefore | hlast
  · exact (List.pairwise_append.mp hpairwise).2.2 w hbefore last (List.mem_singleton_self _)
  · rw [List.mem_singleton.mp hlast]

end Graph

end PluginOrder
