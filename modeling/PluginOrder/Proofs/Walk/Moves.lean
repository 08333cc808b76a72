import PluginOrder.Graph.Walk
import PluginOrder.Proofs.Ledger.Lookup
import Mathlib.Logic.Relation

/-!
# What a walk can do

A walk moves in one of five ways, whether it starts at a root or takes a turn: it passes a link
by, it enters a node, it leaves a node as valid or as invalid, or it drops a frame whose node is
missing.  `Move` lists them with everything that is known when they happen, and `Stop` lists the
ways to halt.  `move_of_step`, `move_of_enter`, `stop_of_step` and `stop_of_enter` say that there
are no others, so no later proof opens `step` or `enter` again.

`Reaches g` is the run from the start of a walk over `g`.
-/

namespace PluginOrder

namespace Node

/-- A node that a link was followed into. -/
def entered (node : Node) (valid : Bool) (error : Option Rejection) : Node :=
  { node with visiting := true, valid, error }

/-- A node that the walk has left. -/
def left (node : Node) : Node := { node with visiting := false, visited := true }

theorem mem_take_succ {node : Node} {n : Nat} {edge other : Edge}
    (hedge : node.dependents[n]? = some edge) :
    other ∈ node.dependents.take (n + 1) ↔ other ∈ node.dependents.take n ∨ other = edge := by
  rw [List.take_add_one, hedge, List.mem_append, Option.toList_some, List.mem_singleton]

end Node

namespace Walk

/-! ## The changes of state -/

/-- The walk after the innermost node took an edge. -/
def advance (w : Walk) : Walk :=
  match w.stack with
  | [] => w
  | frame :: below => { w with stack := { frame with next := frame.next + 1 } :: below }

/-- The walk after a node was put on its way. -/
def push (w : Walk) (key : String) (valid : Bool) (error : Option Rejection) : Walk :=
  { w with
    nodes := w.nodes.modify key fun node => node.entered valid error
    stack := ⟨key, 0⟩ :: w.stack }

/-- The walk after the node of the innermost frame was taken off its way. -/
def pop (w : Walk) (key : String) (below : List Frame) : Walk :=
  { w with nodes := w.nodes.modify key Node.left, stack := below }

/-- The walk after a node was left as valid. -/
def accepting (w : Walk) (key : String) (node : Node) (below : List Frame) : Walk :=
  { w.pop key below with finished := node.id :: w.finished }

/-- The walk after a node was left as invalid. -/
def rejecting (w : Walk) (key : String) (node : Node) (reason : Rejection) (below : List Frame) :
    Walk :=
  { (w.pop key below).report (.nodeRejected node.id reason.status reason.plugin) with
    rejects := w.rejects.insert node.id reason }

/-! ## Links -/

/-- A link that the walk follows next: an empty way is entered at any node as a root, and
otherwise the innermost node has an edge left. -/
inductive Link (w : Walk) : String → Bool → Option Rejection → Prop
  | root {key : String} (hstack : w.stack = []) (hkey : key ∈ w.nodes.keys) : Link w key true none
  | edge {frame : Frame} {below : List Frame} {node : Node} {edge : Edge}
      (hstack : w.stack = frame :: below) (hnode : w.nodes.get? frame.key = some node)
      (hedge : node.dependents[frame.next]? = some edge) :
      Link w edge.importer (node.valid && edge.valid) (linkError node edge)

/-- A bad link hands a reason on if bad edges have reasons. -/
theorem linkError_ne_none {node : Node} {edge : Edge} (hvalid : (node.valid && edge.valid) = false)
    (herror : edge.valid = false → edge.error ≠ none) : linkError node edge ≠ none := by
  unfold linkError
  cases hedge : edge.valid with
  | false => simpa [hedge] using herror hedge
  | true =>
      have hnode : node.valid = false := by simpa [hedge] using hvalid
      simp [hnode]

/-- What a walk can do next. -/
inductive Move (w : Walk) : Walk → Prop
  | pass {key : String} {valid : Bool} {error : Option Rejection} {target : Node}
      (hlink : w.Link key valid error) (htarget : w.nodes.get? key = some target)
      (hneeds : target.needsVisit valid = false) : Move w w.advance
  | enter {key : String} {valid : Bool} {error : Option Rejection} {target : Node}
      (hlink : w.Link key valid error) (htarget : w.nodes.get? key = some target)
      (hneeds : target.needsVisit valid = true) (hvisiting : target.visiting = false) :
      Move w (w.advance.push key valid error)
  | accept {frame : Frame} {below : List Frame} {node : Node}
      (hstack : w.stack = frame :: below) (hnode : w.nodes.get? frame.key = some node)
      (hdone : node.dependents[frame.next]? = none) (hvalid : node.valid = true) :
      Move w (w.accepting frame.key node below)
  | reject {frame : Frame} {below : List Frame} {node : Node} {reason : Rejection}
      (hstack : w.stack = frame :: below) (hnode : w.nodes.get? frame.key = some node)
      (hdone : node.dependents[frame.next]? = none) (hvalid : node.valid = false)
      (hreason : node.error = some reason) :
      Move w (w.rejecting frame.key node reason below)
  | drop {frame : Frame} {below : List Frame}
      (hstack : w.stack = frame :: below) (hnode : w.nodes.get? frame.key = none) :
      Move w { w with stack := below }

/-- How a walk can halt. -/
inductive Stop (w : Walk) : Halt → Prop
  | unknown {key : String} {valid : Bool} {error : Option Rejection}
      (hlink : w.Link key valid error) (htarget : w.nodes.get? key = none) :
      Stop w ⟨.unknownImporter key, w.advance⟩
  | again {key : String} {valid : Bool} {error : Option Rejection} {target : Node}
      (hlink : w.Link key valid error) (htarget : w.nodes.get? key = some target)
      (hneeds : target.needsVisit valid = true) (hvisiting : target.visiting = true) :
      Stop w (w.advance.haltAt target.id)
  | unjustified {frame : Frame} {below : List Frame} {node : Node}
      (hstack : w.stack = frame :: below) (hnode : w.nodes.get? frame.key = some node)
      (hdone : node.dependents[frame.next]? = none) (hvalid : node.valid = false)
      (hreason : node.error = none) :
      Stop w ⟨.unjustified, w.pop frame.key below⟩

@[simp] theorem nodes_advance (w : Walk) : w.advance.nodes = w.nodes := by
  unfold advance; split <;> rfl

@[simp] theorem finished_advance (w : Walk) : w.advance.finished = w.finished := by
  unfold advance; split <;> rfl

@[simp] theorem rejects_advance (w : Walk) : w.advance.rejects = w.rejects := by
  unfold advance; split <;> rfl

@[simp] theorem keys_advance (w : Walk) :
    w.advance.stack.map (·.key) = w.stack.map (·.key) := by
  unfold advance
  split
  · rfl
  · rename_i frame below hstack
    simp [hstack]

/-! A walk that halts at a node only reports it. -/

@[simp] theorem nodes_haltAt (w : Walk) (id : String) : (w.haltAt id).walk.nodes = w.nodes := by
  unfold haltAt; dsimp only; split <;> rfl

@[simp] theorem stack_haltAt (w : Walk) (id : String) : (w.haltAt id).walk.stack = w.stack := by
  unfold haltAt; dsimp only; split <;> rfl

@[simp] theorem rejects_haltAt (w : Walk) (id : String) :
    (w.haltAt id).walk.rejects = w.rejects := by
  unfold haltAt; dsimp only; split <;> rfl

/-! ## There are no other moves -/

/-- Following a link ends in one of two moves, or in one of two ways to halt. -/
theorem enter_link {w : Walk} {key : String} {valid : Bool} {error : Option Rejection}
    (hlink : w.Link key valid error) :
    (∀ w', w.advance.enter key valid error = .ok w' → w.Move w') ∧
      ∀ halt, w.advance.enter key valid error = .error halt → w.Stop halt := by
  unfold enter
  rw [nodes_advance]
  cases htarget : w.nodes.get? key with
  | none =>
      refine ⟨fun w' h => by simp at h, fun halt h => ?_⟩
      cases h
      exact .unknown hlink htarget
  | some target =>
      cases hneeds : target.needsVisit valid with
      | false =>
          refine ⟨fun w' h => ?_, fun halt h => by simp [hneeds] at h⟩
          simp only [hneeds, Bool.not_false, if_true] at h
          cases h
          exact .pass hlink htarget hneeds
      | true =>
          -- a node that is to be entered is new on the way, or closes a cycle
          cases hvisiting : target.visiting with
          | false =>
              refine ⟨fun w' h => ?_, fun halt h => by simp [hneeds, hvisiting] at h⟩
              have hw' : w.advance.push key valid error = w' := by
                simpa [hneeds, hvisiting, push, Node.entered] using h
              rw [← hw']
              exact .enter hlink htarget hneeds hvisiting
          | true =>
              refine ⟨fun w' h => by simp [hneeds, hvisiting] at h, fun halt h => ?_⟩
              have hhalt : w.advance.haltAt target.id = halt := by
                simpa [hneeds, hvisiting] using h
              rw [← hhalt]
              exact .again hlink htarget hneeds hvisiting

/-- Leaving the innermost node is one of two moves, or halts for want of a reason. -/
theorem leave_top {w : Walk} {frame : Frame} {below : List Frame} {node : Node}
    (hstack : w.stack = frame :: below) (hnode : w.nodes.get? frame.key = some node)
    (hdone : node.dependents[frame.next]? = none) :
    (∀ w', leave { w with stack := below } frame.key node = .ok w' → w.Move w') ∧
      ∀ halt, leave { w with stack := below } frame.key node = .error halt → w.Stop halt := by
  unfold leave
  cases hvalid : node.valid with
  | true =>
      refine ⟨fun w' h => ?_, fun halt h => by simp at h⟩
      cases h
      exact .accept hstack hnode hdone hvalid
  | false =>
      cases hreason : node.error with
      | none =>
          refine ⟨fun w' h => by simp at h, fun halt h => ?_⟩
          simp only [Bool.false_eq_true, if_false] at h
          cases h
          exact .unjustified hstack hnode hdone hvalid hreason
      | some reason =>
          refine ⟨fun w' h => ?_, fun halt h => by simp at h⟩
          simp only [Bool.false_eq_true, if_false] at h
          cases h
          exact .reject hstack hnode hdone hvalid hreason

/-- A turn is a move or halts. -/
theorem step_cases {w : Walk} (hstack : w.stack ≠ []) :
    (∀ w', w.step = .ok w' → w.Move w') ∧ ∀ halt, w.step = .error halt → w.Stop halt := by
  cases hw : w.stack with
  | nil => exact absurd hw hstack
  | cons frame below =>
      unfold step
      rw [hw]
      cases hnode : w.nodes.get? frame.key with
      | none =>
          refine ⟨fun w' h => ?_, fun halt h => by simp [hnode] at h⟩
          simp only [hnode] at h
          cases h
          exact .drop hw hnode
      | some node =>
          cases hedge : node.dependents[frame.next]? with
          | none =>
              simp only [hedge, hnode]
              exact leave_top hw hnode hedge
          | some edge =>
              have hcases := enter_link (.edge hw hnode hedge)
              simp only [advance, hw] at hcases
              simp only [hedge, hnode]
              exact hcases

theorem move_of_step {w w' : Walk} (hstack : w.stack ≠ []) (h : w.step = .ok w') : w.Move w' :=
  (step_cases hstack).1 w' h

theorem stop_of_step {w : Walk} {halt : Halt} (hstack : w.stack ≠ [])
    (h : w.step = .error halt) : w.Stop halt :=
  (step_cases hstack).2 halt h

theorem advance_of_stack_nil {w : Walk} (hstack : w.stack = []) : w.advance = w := by
  simp [advance, hstack]

theorem move_of_enter {w w' : Walk} {key : String} (hstack : w.stack = [])
    (hkey : key ∈ w.nodes.keys) (h : w.enter key true none = .ok w') : w.Move w' :=
  (enter_link (.root hstack hkey)).1 w' (by rw [advance_of_stack_nil hstack]; exact h)

theorem stop_of_enter {w : Walk} {key : String} {halt : Halt} (hstack : w.stack = [])
    (hkey : key ∈ w.nodes.keys) (h : w.enter key true none = .error halt) : w.Stop halt :=
  (enter_link (.root hstack hkey)).2 halt (by rw [advance_of_stack_nil hstack]; exact h)

/-! ## What every run keeps -/

theorem Move.keys {w w' : Walk} (h : w.Move w') : w'.nodes.keys = w.nodes.keys := by
  cases h with
  | pass _ _ _ => rw [nodes_advance]
  | enter _ _ _ _ => rw [push, Ledger.keys_modify, nodes_advance]
  | accept _ _ _ _ | reject _ _ _ _ _ => exact Ledger.keys_modify ..
  | drop _ _ => rfl

theorem keys_of_run {w w' : Walk} (h : Relation.ReflTransGen Move w w') :
    w'.nodes.keys = w.nodes.keys := by
  induction h with
  | refl => rfl
  | tail _ hmove ih => rw [hmove.keys, ih]

end Walk

/-- The walks over a graph: what its start can come to. -/
def Graph.Reaches (g : Graph) : Walk → Prop := Relation.ReflTransGen Walk.Move (Walk.start g)

end PluginOrder
