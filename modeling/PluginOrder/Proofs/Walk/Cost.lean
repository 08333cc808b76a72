import PluginOrder.Proofs.Walk.Course
import Mathlib.Data.List.Perm.Subperm

/-!
# What a sort costs

A node may be visited twice, so it is not enough that no visited node is visited again.  What a
node still has before it is a list (`Node.prospects`): a first visit and a second one, a second one
only, or none.  A visit takes the head of this list away, and nothing else ever puts a visit back
(`Move.prospects`).  Whatever the marks are to begin with, a node is therefore put on the way at
most twice, first unvisited and then to be downgraded (`pushes_sublist`).

Each visit of a node costs a turn for each of its edges and one to leave it.  `Walk.potential` adds
this up for all visits to come and falls with every turn, so it bounds the turns of a course
(`turns_le_potential`), and at the start it is at most twice the number of nodes and edges.

The nodes on the way carry marks, and a marked node is not put on the way, so no node is there
twice (`Stacked`), and the way is never longer than there are nodes.
-/

namespace PluginOrder

/-- The visits that a node may still have before it: whether it is visited already at each of
them. -/
def Node.prospects (node : Node) : List Bool :=
  if !node.visited && !node.visiting then [false, true] else if node.valid then [true] else []

namespace Walk

variable {g nodes : Graph} {w w' : Walk} {ws : List Walk} {key : String}

/-! ## Pushes -/

/-- A node is put on the way between two walks. -/
def Pushes (w : Walk) (key : String) (w' : Walk) : Prop :=
  w.stack.length < w'.stack.length ∧ w'.stack.head?.map (·.key) = some key

instance (w : Walk) (key : String) (w' : Walk) : Decidable (w.Pushes key w') :=
  inferInstanceAs (Decidable (_ ∧ _))

/-- The walks of a row between which a node is put on the way, before and after each time. -/
def pushes (key : String) : List Walk → List (Walk × Walk)
  | w :: w' :: ws =>
    if w.Pushes key w' then (w, w') :: pushes key (w' :: ws) else pushes key (w' :: ws)
  | _ => []

/-- What the node under a key may still have before it. -/
def prospects (w : Walk) (key : String) : List (Option Bool) :=
  match w.nodes.get? key with
  | some node => node.prospects.map some
  | none => []

theorem prospects_of_get? {node : Node} (hnode : w.nodes.get? key = some node) :
    w.prospects key = node.prospects.map some := by
  rw [prospects, hnode]

theorem prospects_congr (h : w'.nodes.get? key = w.nodes.get? key) :
    w'.prospects key = w.prospects key := by
  rw [prospects, prospects, h]

theorem length_advance (w : Walk) : w.advance.stack.length = w.stack.length := by
  have hkeys := congrArg List.length (keys_advance w)
  rwa [List.length_map, List.length_map] at hkeys

/-- Only an entered node is put on the way. -/
theorem pushes_push_iff {other : String} {valid : Bool} {error : Option Rejection} :
    w.Pushes key (w.advance.push other valid error) ↔ key = other := by
  unfold Pushes push
  simp only [List.length_cons, length_advance, Nat.lt_add_one, List.head?_cons, Option.map_some,
    Option.some.injEq, true_and]
  exact eq_comm

theorem not_pushes_of_length_le (h : w'.stack.length ≤ w.stack.length) : ¬ w.Pushes key w' :=
  fun hpushes => Nat.not_lt.mpr h hpushes.1

/-- A visit takes away the first prospect of its node, and it downgrades the node if that was
visited before. -/
theorem prospects_entered {node : Node} {valid : Bool} (error : Option Rejection)
    (hneeds : node.needsVisit valid = true) (hvisiting : node.visiting = false) :
    (node.visited :: (node.entered valid error).prospects).Sublist node.prospects ∧
      (node.visited = true → node.valid = true ∧ valid = false) := by
  obtain ⟨id, dependents, visited, visiting, current, reason⟩ := node
  simp only [Node.needsVisit] at hneeds hvisiting
  subst hvisiting
  revert hneeds
  cases visited <;> cases current <;> cases valid <;> simp [Node.prospects, Node.entered]

theorem prospects_left (node : Node) : node.left.prospects.Sublist node.prospects := by
  obtain ⟨id, dependents, visited, visiting, valid, reason⟩ := node
  cases visited <;> cases visiting <;> cases valid <;> simp [Node.prospects, Node.left]

theorem prospects_pop_sublist (other : String) (below : List Frame) :
    ((w.pop other below).prospects key).Sublist (w.prospects key) := by
  by_cases hkey : key = other
  · subst hkey
    cases hnode : w.nodes.get? key with
    | none => simp [prospects, pop, hnode]
    | some node =>
        have hleft : (w.pop key below).nodes.get? key = some node.left := by
          rw [pop, Ledger.get?_modify_self, hnode, Option.map_some]
        rw [prospects_of_get? hnode, prospects_of_get? hleft]
        exact (prospects_left node).map some
  · have hsame : (w.pop other below).nodes.get? key = w.nodes.get? key := by
      rw [pop, Ledger.get?_modify, if_neg hkey]
    rw [prospects_congr hsame]

/-- **A move takes the first prospect of the node that it puts on the way, and adds none.** -/
theorem Move.prospects (hmove : w.Move w') (key : String) :
    (w.Pushes key w' → (w.visited? key :: w'.prospects key).Sublist (w.prospects key) ∧
        (w.visited? key = some true → w.verdict? key = some true ∧ w'.verdict? key = some false)) ∧
      (w'.prospects key).Sublist (w.prospects key) := by
  cases hmove with
  | pass _ _ _ =>
      refine ⟨fun hpushes => ?_, ?_⟩
      · exact absurd hpushes (not_pushes_of_length_le (length_advance w).le)
      · have hsame : w.advance.prospects key = w.prospects key :=
          prospects_congr (by rw [nodes_advance])
        rw [hsame]
  | @enter other valid error target _ htarget hneeds hvisiting =>
      by_cases hkey : key = other
      · subst hkey
        have hentered : (w.advance.push key valid error).nodes.get? key =
            some (target.entered valid error) := by
          rw [push, Ledger.get?_modify_self, nodes_advance, htarget, Option.map_some]
        obtain ⟨htaken, hdowngrade⟩ := prospects_entered error hneeds hvisiting
        -- the visit that was to come next is the one that is made
        have htaken' := htaken.map some
        rw [List.map_cons] at htaken'
        rw [visited?, verdict?, verdict?, htarget, hentered, prospects_of_get? htarget,
          prospects_of_get? hentered]
        refine ⟨fun _ => ⟨htaken', fun hvisited => ?_⟩, (List.sublist_cons_self _ _).trans htaken'⟩
        obtain ⟨hbefore, hafter⟩ := hdowngrade (Option.some.inj hvisited)
        exact ⟨congrArg some hbefore, congrArg some hafter⟩
      · refine ⟨fun hpushes => absurd (pushes_push_iff.mp hpushes) hkey, ?_⟩
        have hsame : (w.advance.push other valid error).nodes.get? key = w.nodes.get? key := by
          rw [push, Ledger.get?_modify, if_neg hkey, nodes_advance]
        rw [prospects_congr hsame]
  | @accept frame below node hstack _ _ _ =>
      refine ⟨fun hpushes => ?_, prospects_pop_sublist frame.key below⟩
      refine absurd hpushes (not_pushes_of_length_le ?_)
      simp [accepting, pop, hstack]
  | @reject frame below node reason hstack _ _ _ _ =>
      refine ⟨fun hpushes => ?_, prospects_pop_sublist frame.key below⟩
      refine absurd hpushes (not_pushes_of_length_le ?_)
      simp [rejecting, pop, report, hstack]
  | @drop frame below hstack _ =>
      refine ⟨fun hpushes => ?_, List.Sublist.refl _⟩
      refine absurd hpushes (not_pushes_of_length_le ?_)
      simp [hstack]

/-- **A node is put on the way as often as it has prospects, in their order.** -/
theorem pushes_sublist (h : ws.IsChain Move) (hhead : ws.head? = some w) (key : String) :
    ((pushes key ws).map fun push => push.1.visited? key).Sublist (w.prospects key) := by
  induction ws generalizing w with
  | nil => cases hhead
  | cons first rest ih =>
      obtain rfl : first = w := by simpa using hhead
      cases rest with
      | nil => exact List.nil_sublist _
      | cons next rest =>
          obtain ⟨hmove, hrest⟩ := List.isChain_cons_cons.mp h
          obtain ⟨htaken, hkept⟩ := hmove.prospects key
          have hlater := ih hrest rfl
          unfold pushes
          split
          · rename_i hpushes
            exact (hlater.cons_cons _).trans (htaken hpushes).1
          · exact hlater.trans hkept

/-- A node that is put on the way although it was visited is downgraded. -/
theorem downgrade_of_mem_pushes (h : ws.IsChain Move) {push : Walk × Walk}
    (hpush : push ∈ pushes key ws) (hvisited : push.1.visited? key = some true) :
    push.1.verdict? key = some true ∧ push.2.verdict? key = some false := by
  induction ws with
  | nil => cases hpush
  | cons w rest ih =>
      cases rest with
      | nil => cases hpush
      | cons next rest =>
          obtain ⟨hmove, hrest⟩ := List.isChain_cons_cons.mp h
          unfold pushes at hpush
          split at hpush
          · rename_i hpushes
            rcases List.mem_cons.mp hpush with rfl | hlater
            · exact ((hmove.prospects key).1 hpushes).2 hvisited
            · exact ih hrest hlater
          · exact ih hrest hpush

/-! ## Turns -/

/-- The walks of a row from which a turn is taken: those on a way. -/
def turns (ws : List Walk) : List Walk := ws.filter fun w => !w.stack.isEmpty

theorem potential_le_of_move (h : w.Move w') : w'.potential ≤ w.potential := by
  by_cases hstack : w.stack = []
  · cases h with
    | pass _ _ _ => rw [advance_of_stack_nil hstack]
    | enter _ htarget hneeds hvisiting =>
        rw [advance_of_stack_nil hstack]
        exact potential_push_le _ htarget hneeds hvisiting
    | accept hw _ _ _ | reject hw _ _ _ _ | drop hw _ =>
        rw [hstack] at hw
        cases hw
  · exact Nat.le_of_lt (potential_lt_of_move hstack h)

/-- **The potential bounds the turns.** -/
theorem turns_le_potential (h : ws.IsChain Move) (hhead : ws.head? = some w) :
    (turns ws).length ≤ w.potential := by
  induction ws generalizing w with
  | nil => cases hhead
  | cons first rest ih =>
      obtain rfl : first = w := by simpa using hhead
      -- every turn lowers the potential; steps between ways only do not raise it
      have hrest : (turns rest).length ≤ first.potential ∧
          (first.stack ≠ [] → (turns rest).length < first.potential) := by
        cases rest with
        | nil =>
            refine ⟨Nat.zero_le _, fun hstack => Nat.pos_of_ne_zero ?_⟩
            exact mt stack_eq_nil_of_potential hstack
        | cons next rest =>
            obtain ⟨hmove, hchain⟩ := List.isChain_cons_cons.mp h
            have hlater := ih hchain rfl
            refine ⟨hlater.trans (potential_le_of_move hmove), fun hstack => ?_⟩
            exact Nat.lt_of_le_of_lt hlater (potential_lt_of_move hstack hmove)
      by_cases hstack : first.stack = []
      · have hturns : turns (first :: rest) = turns rest := by simp [turns, hstack]
        rw [hturns]
        exact hrest.1
      · have hturns : turns (first :: rest) = first :: turns rest := by simp [turns, hstack]
        rw [hturns, List.length_cons]
        exact hrest.2 hstack

theorem sum_cost_le (nodes : List Node) :
    (nodes.map fun node => credit node * (node.dependents.length + 1)).foldr (· + ·) 0 ≤
      2 * (nodes.length + (nodes.map fun node => node.dependents.length).foldr (· + ·) 0) := by
  induction nodes with
  | nil => exact Nat.le_refl _
  | cons node rest ih =>
      have hcredit : credit node ≤ 2 := by
        unfold credit
        split
        · exact Nat.le_refl 2
        · split <;> omega
      have hcost := Nat.mul_le_mul_right (node.dependents.length + 1) hcredit
      simp only [List.map_cons, List.foldr_cons, List.length_cons]
      omega

theorem potential_start_le (g : Graph) : (start g).potential ≤ 2 * (g.size + g.edgeCount) := by
  have hsum := sum_cost_le g.values
  have hsize : g.values.length = g.size := List.length_map _
  rw [hsize] at hsum
  simpa [potential_eq, nodeCost, start, Graph.edgeCount] using hsum

/-! ## Height -/

/-- The nodes on the way are marked, and none is on the way twice. -/
structure Stacked (nodes : Graph) (stack : List Frame) : Prop where
  visiting : ∀ key ∈ stack.map (·.key), ∃ node, nodes.get? key = some node ∧ node.visiting = true
  nodup : (stack.map (·.key)).Nodup

namespace Stacked

variable {stack : List Frame}

theorem push (h : Stacked nodes stack) {valid : Bool} {error : Option Rejection} {target : Node}
    (htarget : nodes.get? key = some target) (hvisiting : target.visiting = false) :
    Stacked (nodes.modify key fun node => node.entered valid error) (⟨key, 0⟩ :: stack) where
  visiting := by
    intro other hother
    by_cases hkey : other = key
    · subst hkey
      exact ⟨target.entered valid error, by rw [Ledger.get?_modify_self, htarget]; rfl, rfl⟩
    · have hold : other ∈ stack.map (·.key) := (List.mem_cons.mp hother).resolve_left hkey
      obtain ⟨node, hnode, hmark⟩ := h.visiting other hold
      exact ⟨node, by rw [Ledger.get?_modify, if_neg hkey, hnode], hmark⟩
  nodup := by
    refine List.nodup_cons.mpr ⟨fun hmem => ?_, h.nodup⟩
    obtain ⟨node, hnode, hmark⟩ := h.visiting key hmem
    rw [htarget] at hnode
    cases hnode
    rw [hvisiting] at hmark
    cases hmark

/-- Taking a frame away, with or without the mark of its node. -/
theorem pop {frame : Frame} (h : Stacked nodes (frame :: stack)) {f : Node → Node} :
    Stacked (nodes.modify frame.key f) stack where
  visiting := by
    intro other hother
    obtain ⟨node, hnode, hmark⟩ := h.visiting other (List.mem_cons_of_mem _ hother)
    have hne : other ≠ frame.key := by
      rintro rfl
      exact (List.nodup_cons.mp h.nodup).1 hother
    exact ⟨node, by rw [Ledger.get?_modify, if_neg hne, hnode], hmark⟩
  nodup := (List.nodup_cons.mp h.nodup).2

end Stacked

theorem Move.stacked (hmove : w.Move w') (h : Stacked w.nodes w.stack) :
    Stacked w'.nodes w'.stack := by
  have hadvance : Stacked w.advance.nodes w.advance.stack := by
    refine ⟨?_, ?_⟩
    · rw [keys_advance, nodes_advance]
      exact h.visiting
    · rw [keys_advance]
      exact h.nodup
  cases hmove with
  | pass _ _ _ => exact hadvance
  | enter _ htarget _ hvisiting =>
      rw [← nodes_advance] at htarget
      exact hadvance.push htarget hvisiting
  | accept hstack _ _ _ | reject hstack _ _ _ _ =>
      rw [hstack] at h
      exact h.pop
  | drop hstack _ =>
      rw [hstack] at h
      exact ⟨fun key hkey => h.visiting key (List.mem_cons_of_mem _ hkey),
        (List.nodup_cons.mp h.nodup).2⟩

theorem Stacked.length_le (h : Stacked w.nodes w.stack) : w.stack.length ≤ w.nodes.keys.length := by
  have hsubset : w.stack.map (·.key) ⊆ w.nodes.keys := by
    intro key hkey
    obtain ⟨node, hnode, _⟩ := h.visiting key hkey
    exact Ledger.mem_keys_iff.mpr ⟨node, hnode⟩
  have hle := (List.subperm_of_subset h.nodup hsubset).length_le
  rwa [List.length_map] at hle

end Walk

/-! ## The cost of a sort -/

namespace Graph

variable {g : Graph}

/-- On the way of a walk, over any graph, no node is twice. -/
theorem Reaches.stacked {w : Walk} (hreaches : g.Reaches w) : Walk.Stacked w.nodes w.stack := by
  induction hreaches with
  | refl => exact ⟨by simp [Walk.start], by simp [Walk.start]⟩
  | tail _ hmove ih => exact hmove.stacked ih

theorem Reaches.length_le {w : Walk} (hreaches : g.Reaches w) : w.stack.length ≤ g.size := by
  have hkeys : w.nodes.keys = g.keys := Walk.keys_of_run hreaches
  have hle := hreaches.stacked.length_le
  rw [hkeys] at hle
  exact hle.trans (List.length_map _).le

/-- What a course costs at most. -/
structure Frugal (g : Graph) (ws : List Walk) : Prop where
  /-- A node is put on the way at most twice, first unvisited and then visited. -/
  pushes : ∀ key, ((Walk.pushes key ws).map fun push => push.1.visited? key).Sublist
    [some false, some true]
  /-- The second time it is downgraded. -/
  downgrades : ∀ key, ∀ push ∈ Walk.pushes key ws, push.1.visited? key = some true →
    push.1.verdict? key = some true ∧ push.2.verdict? key = some false
  turns : (Walk.turns ws).length ≤ 2 * (g.size + g.edgeCount)
  height : ∀ w ∈ ws, w.stack.length ≤ g.size

theorem prospects_start (g : Graph) (key : String) :
    ((Walk.start g).prospects key).Sublist [some false, some true] := by
  unfold Walk.prospects
  split
  · rename_i node _
    have hnode : node.prospects.Sublist [false, true] := by
      unfold Node.prospects
      split
      · exact List.Sublist.refl _
      · split <;> simp
    exact hnode.map some
  · exact List.nil_sublist _

theorem Course.frugal {ws : List Walk} {result : Except Halt Walk} (h : g.Course ws result) :
    g.Frugal ws where
  pushes := fun key =>
    (Walk.pushes_sublist h.isChain (Walk.Course.head?_eq h) key).trans (prospects_start g key)
  downgrades := fun _ _ hpush hvisited => Walk.downgrade_of_mem_pushes h.isChain hpush hvisited
  turns := (Walk.turns_le_potential h.isChain (Walk.Course.head?_eq h)).trans
    (Walk.potential_start_le g)
  height := fun _ hw => (h.reaches hw).length_le

/-- **A sort ends, and it is cheap.**  Whatever the nodes, edges and marks of a graph, the loop has
one course, which ends with the result of the sort; on it every node is put on the way at most
twice, the second time to be downgraded, the turns are at most twice as many as there are nodes and
edges, and the way is never longer than there are nodes. -/
theorem sort_frugal (g : Graph) :
    ∃ ws, (∀ ws' result, g.Course ws' result ↔ ws' = ws ∧ result = g.sort) ∧ g.Frugal ws := by
  obtain ⟨ws, hcourse⟩ := g.exists_course
  refine ⟨ws, hcourse, ?_⟩
  have hown : g.Course ws g.sort := (hcourse ws g.sort).mpr ⟨rfl, rfl⟩
  exact hown.frugal

end Graph

end PluginOrder
