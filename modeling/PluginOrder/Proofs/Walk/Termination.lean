import PluginOrder.Proofs.Walk.Moves

/-!
# A walk runs to its end

`Walk.drain` takes as many turns as `potential` says.  Every turn lowers the potential
(`potential_lt_of_move`): passing a link by costs a turn of the innermost frame, and entering a
node costs as much credit of the node as its new frame may spend.  A frame costs at least one
turn, so the way is empty when the potential is used up, and `drain` never stops for want of
fuel.  `drain_of_stack_ne_nil` says so as an equation in which no fuel is left.

`sort_ok` and `sort_error` are what the rest of the theory uses: a sort that returns has reached
a walk with an empty way on which every node was met, and a sort that fails has reached a walk
that halts.
-/

namespace PluginOrder

namespace Walk

/-! ## The potential -/

/-- What the nodes can still cost. -/
def nodeCost (nodes : Graph) : Nat :=
  (nodes.values.map fun node => credit node * (node.dependents.length + 1)).foldr (· + ·) 0

/-- What a frame can still cost. -/
def frameCost (nodes : Graph) (frame : Frame) : Nat :=
  match nodes.get? frame.key with
  | some node => node.dependents.length - frame.next + 1
  | none => 1

theorem potential_eq (w : Walk) :
    w.potential = nodeCost w.nodes + (w.stack.map (frameCost w.nodes)).foldr (· + ·) 0 := rfl

theorem frameCost_of_get? {nodes : Graph} {frame : Frame} {node : Node}
    (hnode : nodes.get? frame.key = some node) :
    frameCost nodes frame = node.dependents.length - frame.next + 1 := by
  rw [frameCost, hnode]

theorem frameCost_pos (nodes : Graph) (frame : Frame) : 0 < frameCost nodes frame := by
  unfold frameCost
  split <;> omega

section Modify

variable {nodes : Graph} {key : String} {f : Node → Node}

theorem frameCost_modify (hf : ∀ node, (f node).dependents = node.dependents) (frame : Frame) :
    frameCost (nodes.modify key f) frame = frameCost nodes frame := by
  simp only [frameCost, Ledger.get?_modify]
  cases nodes.get? frame.key with
  | none => simp
  | some node => by_cases hkey : frame.key = key <;> simp [hkey, hf]

theorem map_frameCost_modify (hf : ∀ node, (f node).dependents = node.dependents)
    (stack : List Frame) :
    stack.map (frameCost (nodes.modify key f)) = stack.map (frameCost nodes) :=
  List.map_congr_left fun frame _ => frameCost_modify hf frame

/-- A change of one node that saves `saved` credits saves that many of its visits. -/
theorem nodeCost_modify (hf : ∀ node, (f node).dependents = node.dependents) {node : Node}
    (hnode : nodes.get? key = some node) {saved : Nat}
    (hcredit : credit (f node) + saved ≤ credit node) :
    nodeCost (nodes.modify key f) + saved * (node.dependents.length + 1) ≤ nodeCost nodes := by
  have hsum := Ledger.sum_values_modify f
    (fun node => credit node * (node.dependents.length + 1)) hnode
  -- for omega, the products on both sides have to be the same terms
  have hmul := Nat.mul_le_mul_right (node.dependents.length + 1) hcredit
  rw [Nat.add_mul] at hmul
  simp only [hf] at hsum
  unfold nodeCost
  omega

end Modify

/-- A node that is entered loses a credit. -/
theorem credit_entered {node : Node} {valid : Bool} (error : Option Rejection)
    (hneeds : node.needsVisit valid = true) (hvisiting : node.visiting = false) :
    credit (node.entered valid error) + 1 ≤ credit node := by
  obtain ⟨id, dependents, visited, visiting, current, reason⟩ := node
  simp only [Node.needsVisit] at hneeds hvisiting
  subst hvisiting
  revert hneeds
  cases visited <;> cases current <;> cases valid <;> simp [credit, Node.entered]

/-- A node that is left wins no credit. -/
theorem credit_left (node : Node) : credit node.left ≤ credit node := by
  obtain ⟨id, dependents, visited, visiting, valid, reason⟩ := node
  cases visited <;> cases visiting <;> cases valid <;> simp [credit, Node.left]

theorem frameCost_advance {nodes : Graph} {frame : Frame} {node : Node} {edge : Edge}
    (hnode : nodes.get? frame.key = some node)
    (hedge : node.dependents[frame.next]? = some edge) :
    frameCost nodes { frame with next := frame.next + 1 } + 1 = frameCost nodes frame := by
  have hlt : frame.next < node.dependents.length := (List.getElem?_eq_some_iff.mp hedge).1
  simp only [frameCost, hnode]
  omega

theorem potential_advance {w : Walk} {key : String} {valid : Bool} {error : Option Rejection}
    (hstack : w.stack ≠ []) (hlink : w.Link key valid error) :
    w.advance.potential + 1 = w.potential := by
  cases hlink with
  | root hempty _ => exact absurd hempty hstack
  | @edge frame below node edge hw hnode hedge =>
      have hframe := frameCost_advance hnode hedge
      simp only [potential_eq, advance, hw, List.map_cons, List.foldr_cons]
      omega

theorem potential_push_le {w : Walk} {key : String} {valid : Bool} (error : Option Rejection)
    {target : Node} (htarget : w.nodes.get? key = some target)
    (hneeds : target.needsVisit valid = true) (hvisiting : target.visiting = false) :
    (w.push key valid error).potential ≤ w.potential := by
  have hsame : ∀ node : Node, (node.entered valid error).dependents = node.dependents :=
    fun _ => rfl
  -- the credit that the node loses pays for all that its frame may spend
  have hcost := nodeCost_modify hsame htarget (credit_entered error hneeds hvisiting)
  have hframe : frameCost w.nodes ⟨key, 0⟩ = target.dependents.length - 0 + 1 :=
    frameCost_of_get? htarget
  simp only [potential_eq, push, List.map_cons, List.foldr_cons, map_frameCost_modify hsame]
  omega

theorem potential_pop_lt {w : Walk} {frame : Frame} {below : List Frame} {node : Node}
    (hstack : w.stack = frame :: below) (hnode : w.nodes.get? frame.key = some node) :
    (w.pop frame.key below).potential < w.potential := by
  have hsame : ∀ node : Node, node.left.dependents = node.dependents := fun _ => rfl
  have hcredit : credit node.left + 0 ≤ credit node := credit_left node
  have hcost := nodeCost_modify hsame hnode hcredit
  have hpos := frameCost_pos w.nodes frame
  simp only [potential_eq, pop, hstack, List.map_cons, List.foldr_cons, map_frameCost_modify hsame]
  omega

/-- **Every turn lowers the potential.** -/
theorem potential_lt_of_move {w w' : Walk} (hstack : w.stack ≠ []) (h : w.Move w') :
    w'.potential < w.potential := by
  cases h with
  | pass hlink _ _ =>
      have := potential_advance hstack hlink
      omega
  | @enter key valid error target hlink htarget hneeds hvisiting =>
      rw [← nodes_advance] at htarget
      have hadvance := potential_advance hstack hlink
      have hpush := potential_push_le error htarget hneeds hvisiting
      omega
  | accept hw hnode _ _ => exact potential_pop_lt hw hnode
  | reject hw hnode _ _ _ => exact potential_pop_lt hw hnode
  | @drop frame below hw _ =>
      have := frameCost_pos w.nodes frame
      simp only [potential_eq, hw, List.map_cons, List.foldr_cons]
      omega

/-! ## Visits -/

/-- A walk whose potential is used up has an empty way. -/
theorem stack_eq_nil_of_potential {w : Walk} (h : w.potential = 0) : w.stack = [] := by
  cases hw : w.stack with
  | nil => rfl
  | cons frame below =>
      have := frameCost_pos w.nodes frame
      simp only [potential_eq, hw, List.map_cons, List.foldr_cons] at h
      omega

/-- With fuel for its potential, a walk moves on until its way is empty, unless it halts. -/
theorem drainFor_ok {fuel : Nat} {w w' : Walk} (hfuel : w.potential ≤ fuel)
    (h : drainFor fuel w = .ok w') : Relation.ReflTransGen Move w w' ∧ w'.stack = [] := by
  induction fuel generalizing w with
  | zero =>
      cases h
      exact ⟨.refl, stack_eq_nil_of_potential (Nat.le_zero.mp hfuel)⟩
  | succ fuel ih =>
      unfold drainFor at h
      split at h
      · rename_i hempty
        cases h
        exact ⟨.refl, hempty⟩
      · rename_i frame below hw
        have hstack : w.stack ≠ [] := by simp [hw]
        split at h
        · rename_i next hstep
          have hmove := move_of_step hstack hstep
          have hlt := potential_lt_of_move hstack hmove
          obtain ⟨hrun, hend⟩ := ih (by omega) h
          exact ⟨.head hmove hrun, hend⟩
        · cases h

theorem drainFor_error {fuel : Nat} {w : Walk} {halt : Halt} (h : drainFor fuel w = .error halt) :
    ∃ w', Relation.ReflTransGen Move w w' ∧ w'.Stop halt := by
  induction fuel generalizing w with
  | zero => cases h
  | succ fuel ih =>
      unfold drainFor at h
      split at h
      · cases h
      · rename_i frame below hw
        have hstack : w.stack ≠ [] := by simp [hw]
        split at h
        · rename_i next hstep
          obtain ⟨w', hrun, hstop⟩ := ih h
          exact ⟨w', .head (move_of_step hstack hstep) hrun, hstop⟩
        · rename_i halt' hstep
          cases h
          exact ⟨w, .refl, stop_of_step hstack hstep⟩

/-- Fuel beyond the potential changes nothing. -/
theorem drainFor_succ {fuel : Nat} {w : Walk} (hfuel : w.potential ≤ fuel) :
    drainFor (fuel + 1) w = drainFor fuel w := by
  induction fuel generalizing w with
  | zero =>
      have hempty := stack_eq_nil_of_potential (Nat.le_zero.mp hfuel)
      simp [drainFor, hempty]
  | succ fuel ih =>
      cases hw : w.stack with
      | nil => simp [drainFor, hw]
      | cons frame below =>
          have hstack : w.stack ≠ [] := by simp [hw]
          rw [drainFor, drainFor, hw]
          cases hstep : w.step with
          | ok next =>
              have hlt := potential_lt_of_move hstack (move_of_step hstack hstep)
              exact ih (by omega)
          | error halt => rfl

theorem drainFor_eq_drain {fuel : Nat} {w : Walk} (hfuel : w.potential ≤ fuel) :
    drainFor fuel w = w.drain := by
  obtain ⟨extra, rfl⟩ := Nat.exists_eq_add_of_le hfuel
  induction extra with
  | zero => rfl
  | succ extra ih =>
      have hle : w.potential ≤ w.potential + extra := Nat.le_add_right _ _
      rw [← Nat.add_assoc, drainFor_succ hle, ih hle]

theorem drain_of_stack_nil {w : Walk} (hstack : w.stack = []) : w.drain = .ok w := by
  unfold drain
  cases w.potential with
  | zero => rfl
  | succ fuel => simp [drainFor, hstack]

/-- **A walk that is not at its end takes a turn and goes on.**  This is `drain` without its
fuel. -/
theorem drain_of_stack_ne_nil {w : Walk} (hstack : w.stack ≠ []) :
    w.drain = w.step.bind drain := by
  cases hw : w.stack with
  | nil => exact absurd hw hstack
  | cons frame below =>
      rw [← drainFor_eq_drain (Nat.le_succ w.potential), drainFor, hw]
      cases hstep : w.step with
      | ok next =>
          have hlt := potential_lt_of_move hstack (move_of_step hstack hstep)
          exact drainFor_eq_drain (Nat.le_of_lt hlt)
      | error halt => rfl

/-- Whether the walk has met a node: it was left, or it is on the way. -/
def Touched (w : Walk) (key : String) : Prop :=
  ∀ node, w.nodes.get? key = some node → node.visited = true ∨ node.visiting = true

theorem Move.touched {w w' : Walk} (h : w.Move w') {key : String} (htouched : w.Touched key) :
    w'.Touched key := by
  intro node hnode
  cases h with
  | pass _ _ _ => exact htouched node (by simpa using hnode)
  | @enter other _ _ _ _ _ _ _ =>
      -- the node that is entered is on the way, every other one is as it was
      simp only [push, nodes_advance, Ledger.get?_modify] at hnode
      split at hnode
      · obtain ⟨old, _, rfl⟩ := Option.map_eq_some_iff.mp hnode
        exact Or.inr rfl
      · exact htouched node hnode
  | accept _ _ _ _ | reject _ _ _ _ _ =>
      -- the node that is left is visited from now on
      simp only [accepting, rejecting, pop, report, Ledger.get?_modify] at hnode
      split at hnode
      · obtain ⟨old, _, rfl⟩ := Option.map_eq_some_iff.mp hnode
        exact Or.inl rfl
      · exact htouched node hnode
  | drop _ _ => exact htouched node hnode

theorem touched_of_run {w w' : Walk} (h : Relation.ReflTransGen Move w w') {key : String}
    (htouched : w.Touched key) : w'.Touched key := by
  induction h with
  | refl => exact htouched
  | tail _ hmove ih => exact hmove.touched ih

/-- A root is met by its visit. -/
theorem touched_of_enter {w w' : Walk} {key : String} (h : w.enter key true none = .ok w') :
    w'.Touched key := by
  intro node hnode
  unfold enter at h
  split at h
  · cases h
  · rename_i target htarget
    split at h
    · rename_i hneeds
      cases h
      rw [htarget] at hnode
      cases hnode
      left
      simpa [Node.needsVisit] using hneeds
    · split at h
      · cases h
      · cases h
        simp only [Ledger.get?_modify_self, htarget, Option.map_some, Option.some.injEq] at hnode
        rw [← hnode]
        exact Or.inr rfl

/-- A visit that returns has met its root and emptied its way. -/
theorem visit_ok {w w' : Walk} {key : String} (hstack : w.stack = [])
    (hkey : key ∈ w.nodes.keys) (h : w.visit key = .ok w') :
    Relation.ReflTransGen Move w w' ∧ w'.stack = [] ∧ w'.Touched key := by
  unfold visit at h
  split at h
  · rename_i entered henter
    obtain ⟨hrun, hend⟩ := drainFor_ok (Nat.le_refl _) h
    exact ⟨.head (move_of_enter hstack hkey henter) hrun, hend,
      touched_of_run hrun (touched_of_enter henter)⟩
  · cases h

theorem visit_error {w : Walk} {key : String} {halt : Halt} (hstack : w.stack = [])
    (hkey : key ∈ w.nodes.keys) (h : w.visit key = .error halt) :
    ∃ w', Relation.ReflTransGen Move w w' ∧ w'.Stop halt := by
  unfold visit at h
  split at h
  · rename_i entered henter
    obtain ⟨w', hrun, hstop⟩ := drainFor_error h
    exact ⟨w', .head (move_of_enter hstack hkey henter) hrun, hstop⟩
  · rename_i halt' henter
    cases h
    exact ⟨w, .refl, stop_of_enter hstack hkey henter⟩

theorem visitAll_ok {keys : List String} {w w' : Walk} (hstack : w.stack = [])
    (hkeys : ∀ key ∈ keys, key ∈ w.nodes.keys) (h : visitAll keys w = .ok w') :
    Relation.ReflTransGen Move w w' ∧ w'.stack = [] ∧ ∀ key ∈ keys, w'.Touched key := by
  induction keys generalizing w with
  | nil =>
      cases h
      exact ⟨.refl, hstack, by simp⟩
  | cons key rest ih =>
      rw [List.forall_mem_cons] at hkeys
      unfold visitAll at h
      split at h
      · rename_i next hvisit
        obtain ⟨hfirst, hempty, htouched⟩ := visit_ok hstack hkeys.1 hvisit
        rw [← keys_of_run hfirst] at hkeys
        obtain ⟨hrest, hend, hall⟩ := ih hempty hkeys.2 h
        exact ⟨hfirst.trans hrest, hend,
          List.forall_mem_cons.mpr ⟨touched_of_run hrest htouched, hall⟩⟩
      · cases h

theorem visitAll_error {keys : List String} {w : Walk} {halt : Halt} (hstack : w.stack = [])
    (hkeys : ∀ key ∈ keys, key ∈ w.nodes.keys) (h : visitAll keys w = .error halt) :
    ∃ w', Relation.ReflTransGen Move w w' ∧ w'.Stop halt := by
  induction keys generalizing w with
  | nil => cases h
  | cons key rest ih =>
      rw [List.forall_mem_cons] at hkeys
      unfold visitAll at h
      split at h
      · rename_i next hvisit
        obtain ⟨hfirst, hempty, _⟩ := visit_ok hstack hkeys.1 hvisit
        rw [← keys_of_run hfirst] at hkeys
        obtain ⟨w', hrest, hstop⟩ := ih hempty hkeys.2 h
        exact ⟨w', hfirst.trans hrest, hstop⟩
      · rename_i halt' hvisit
        cases h
        exact visit_error hstack hkeys.1 hvisit

end Walk

/-! ## Sorting -/

namespace Graph

variable {g : Graph}

/-- A sort that returns has emptied its way and met every node. -/
theorem sort_ok {w : Walk} (h : g.sort = .ok w) :
    g.Reaches w ∧ w.stack = [] ∧ ∀ key ∈ g.keys, w.Touched key :=
  Walk.visitAll_ok rfl (fun _ hkey => hkey) h

/-- A sort that fails has reached a walk that halts. -/
theorem sort_error {halt : Halt} (h : g.sort = .error halt) :
    ∃ w, g.Reaches w ∧ w.Stop halt :=
  Walk.visitAll_error rfl (fun _ hkey => hkey) h

end Graph

end PluginOrder
