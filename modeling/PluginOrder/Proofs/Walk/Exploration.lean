import PluginOrder.Proofs.Walk.Trail

/-!
# What a walk has explored

The nodes that a walk has left are closed under edges, and no descent from one of them goes on
forever.  `Explored` carries this along: whatever a frame has taken an edge to was left, except
the node that the walk went on to, which is the frame above.  When a frame has taken all its
edges and is the innermost one, all that its node feeds was left before it, so it may join.

A cycle therefore cannot hide.  Nodes met on a second visit are passed by even when they are on
the way, but all that a second visit can meet was left in first visits, where no node on the way
is passed by.  Once a sort returns, every node was left (`left_of_sort`), and so the graph has no
cycle (`wellFounded_of_sort`).
-/

namespace PluginOrder

namespace Graph

variable {g nodes : Graph} {key : String}

/-- The edges that a frame has taken lead to keys of a kind. -/
def Taken (g : Graph) (P : String → Prop) (frame : Frame) : Prop :=
  ∀ node, g.get? frame.key = some node →
    ∀ edge ∈ node.dependents.take frame.next, P edge.importer

variable {P Q : String → Prop} {frame : Frame} {node : Node} {edge : Edge}

theorem Taken.imp (h : g.Taken P frame) (himp : ∀ k, P k → Q k) : g.Taken Q frame :=
  fun node hnode edge hedge => himp _ (h node hnode edge hedge)

theorem taken_zero (g : Graph) (P : String → Prop) (key : String) : g.Taken P ⟨key, 0⟩ := by
  intro node _ edge hedge
  simp at hedge

theorem Taken.advance (h : g.Taken P frame) (hnode : g.get? frame.key = some node)
    (hedge : node.dependents[frame.next]? = some edge) (hkey : P edge.importer) :
    g.Taken P { frame with next := frame.next + 1 } := by
  intro node' hnode' edge' hedge'
  rw [hnode] at hnode'
  cases hnode'
  rcases (Node.mem_take_succ hedge).mp hedge' with hold | rfl
  · exact h node hnode edge' hold
  · exact hkey

/-- A frame with no edge left has taken all there are. -/
theorem Taken.of_feeds (h : g.Taken P frame) (hnode : g.get? frame.key = some node)
    (hdone : node.dependents[frame.next]? = none) (hfeeds : g.Feeds frame.key key) : P key := by
  obtain ⟨node', hnode', edge, hedge, rfl⟩ := hfeeds
  rw [hnode] at hnode'
  cases hnode'
  refine h node hnode edge ?_
  rwa [List.take_of_length_le (List.getElem?_eq_none_iff.mp hdone)]

theorem left_entered {target : String} {valid : Bool} {error : Option Rejection} :
    Left (nodes.modify target fun node => node.entered valid error) key ↔ nodes.Left key := by
  constructor
  · rintro ⟨node, hnode, hvisited⟩
    rcases Ledger.get?_modify_eq_some_iff.mp hnode with ⟨rfl, old, hold, rfl⟩ | ⟨_, hold⟩
    · exact ⟨old, hold, hvisited⟩
    · exact ⟨node, hold, hvisited⟩
  · exact fun h => h.modify target fun _ hvisited => hvisited

theorem left_left {target : String} (hmem : target ∈ nodes.keys) :
    Left (nodes.modify target Node.left) key ↔ nodes.Left key ∨ key = target := by
  constructor
  · rintro ⟨node, hnode, hvisited⟩
    rcases Ledger.get?_modify_eq_some_iff.mp hnode with ⟨rfl, _, _, _⟩ | ⟨_, hold⟩
    · exact Or.inr rfl
    · exact Or.inl ⟨node, hold, hvisited⟩
  · rintro (h | rfl)
    · exact h.modify target fun _ _ => rfl
    · obtain ⟨old, hold⟩ := Ledger.mem_keys_iff.mp hmem
      exact ⟨old.left, by rw [Ledger.get?_modify_self, hold]; rfl, rfl⟩

end Graph

/-- The keys that were left, seen from a way over a graph. -/
structure Explored (g : Graph) (left : String → Prop) (stack : List Frame) : Prop where
  closed : ∀ {p k : String}, left p → g.Feeds p k → left k
  top : ∀ frame ∈ stack.head?, g.Taken left frame
  lower : stack.IsChain fun upper frame => g.Taken (fun k => left k ∨ k = upper.key) frame
  descends : ∀ {key : String}, left key → Acc (fun k p => g.Feeds p k) key

namespace Explored

variable {g : Graph} {left : String → Prop} {frame : Frame} {below : List Frame} {node : Node}
  {edge : Edge}

/-- Passing by a node that was left. -/
theorem pass (h : Explored g left (frame :: below)) (hnode : g.get? frame.key = some node)
    (hedge : node.dependents[frame.next]? = some edge) (hleft : left edge.importer) :
    Explored g left ({ frame with next := frame.next + 1 } :: below) where
  closed := h.closed
  top := by
    intro top htop
    have heq : { frame with next := frame.next + 1 } = top := by simpa using htop
    rw [← heq]
    exact (h.top frame rfl).advance hnode hedge hleft
  lower := List.isChain_cons.mpr (List.isChain_cons.mp h.lower)
  descends := h.descends

/-- Going on to the node of an edge. -/
theorem enter (h : Explored g left (frame :: below)) (hnode : g.get? frame.key = some node)
    (hedge : node.dependents[frame.next]? = some edge) :
    Explored g left (⟨edge.importer, 0⟩ :: { frame with next := frame.next + 1 } :: below) where
  closed := h.closed
  top := by
    intro top htop
    have heq : ⟨edge.importer, 0⟩ = top := by simpa using htop
    rw [← heq]
    exact Graph.taken_zero g left _
  lower := by
    refine List.IsChain.cons_cons ?_ (List.isChain_cons.mpr (List.isChain_cons.mp h.lower))
    exact ((h.top frame rfl).imp fun _ => Or.inl).advance hnode hedge (Or.inr rfl)
  descends := h.descends

/-- Entering a root. -/
theorem root (h : Explored g left []) (key : String) : Explored g left [⟨key, 0⟩] where
  closed := h.closed
  top := by
    intro top htop
    have heq : ⟨key, 0⟩ = top := by simpa using htop
    rw [← heq]
    exact Graph.taken_zero g left _
  lower := List.isChain_singleton _
  descends := h.descends

/-- Leaving a node that has no edge left. -/
theorem leave (h : Explored g left (frame :: below)) (hnode : g.get? frame.key = some node)
    (hdone : node.dependents[frame.next]? = none) :
    Explored g (fun key => left key ∨ key = frame.key) below where
  closed := by
    rintro p k (hp | rfl) hfeeds
    · exact Or.inl (h.closed hp hfeeds)
    · exact Or.inl ((h.top frame rfl).of_feeds hnode hdone hfeeds)
  -- the one node that the next frame took an edge to without its being left was this one
  top := fun next hnext => (List.isChain_cons.mp h.lower).1 next hnext
  lower := (List.IsChain.of_cons h.lower).imp fun upper next htaken =>
    htaken.imp fun _ hk => hk.elim (fun hleft => Or.inl (Or.inl hleft)) Or.inr
  descends := by
    rintro key (hkey | rfl)
    · exact h.descends hkey
    · exact Acc.intro _ fun k hfeeds => h.descends ((h.top frame rfl).of_feeds hnode hdone hfeeds)

theorem congr {left' : String → Prop} {stack : List Frame} (h : Explored g left stack)
    (hleft : ∀ key, left' key ↔ left key) : Explored g left' stack := by
  have heq : left' = left := funext fun key => propext (hleft key)
  rw [heq]
  exact h

end Explored

namespace Walk

variable {g : Graph} {w w' : Walk}

/-- The innermost node has the same edges in the graph. -/
theorem dependents_eq (h : Trail g w.nodes w.stack) {key : String} {node : Node}
    (hnode : w.nodes.get? key = some node) :
    ∃ node₀, g.get? key = some node₀ ∧ node₀.dependents = node.dependents := by
  obtain ⟨node₀, hnode₀, _, hsame⟩ := h.shape.of_get? hnode
  exact ⟨node₀, hnode₀, hsame⟩

theorem Move.explored (hmove : w.Move w') (htrail : Trail g w.nodes w.stack)
    (h : Explored g w.nodes.Left w.stack) : Explored g w'.nodes.Left w'.stack := by
  cases hmove with
  | @pass key valid error target hlink htarget hneeds =>
      rw [nodes_advance]
      cases hlink with
      | root hstack _ => rwa [advance_of_stack_nil hstack]
      | @edge frame below node edge hstack hnode hedge =>
          obtain ⟨node₀, hnode₀, hsame⟩ := dependents_eq htrail hnode
          rw [hstack] at h
          simp only [advance, hstack]
          -- a node that asks for no visit was left
          have hvisited : target.visited = true := by
            simp only [Node.needsVisit, Bool.or_eq_false_iff] at hneeds
            simpa using hneeds.1
          exact h.pass hnode₀ (hsame ▸ hedge) ⟨target, htarget, hvisited⟩
  | @enter key valid error target hlink _ _ _ =>
      have hleft : ∀ key', (w.advance.push key valid error).nodes.Left key' ↔
          w.nodes.Left key' := by
        intro key'
        rw [← nodes_advance w]
        exact Graph.left_entered
      refine Explored.congr ?_ hleft
      cases hlink with
      | root hstack _ =>
          rw [hstack] at h
          simp only [push, advance, hstack]
          exact h.root key
      | @edge frame below node edge hstack hnode hedge =>
          obtain ⟨node₀, hnode₀, hsame⟩ := dependents_eq htrail hnode
          rw [hstack] at h
          simp only [push, advance, hstack]
          exact h.enter hnode₀ (hsame ▸ hedge)
  | @accept frame below node hstack hnode hdone _
  | @reject frame below node _ hstack hnode hdone _ _ =>
      obtain ⟨node₀, hnode₀, hsame⟩ := dependents_eq htrail hnode
      rw [hstack] at h
      exact (h.leave hnode₀ (hsame ▸ hdone)).congr fun key =>
        Graph.left_left (Ledger.mem_keys_iff.mpr ⟨node, hnode⟩)
  | drop hstack hnone =>
      rw [hstack] at htrail
      exact absurd hnone htrail.get?_top

end Walk

theorem explored_start {g : Graph} (hg : g.Untouched) : Explored g g.Left [] where
  closed := fun h => absurd h (hg.not_left _)
  top := by simp
  lower := .nil
  descends := fun h => absurd h (hg.not_left _)

theorem Graph.Reaches.explored {g : Graph} {w : Walk} (hreaches : g.Reaches w)
    (hg : g.Untouched) : Explored g w.nodes.Left w.stack := by
  induction hreaches with
  | refl => exact explored_start hg
  | tail hrun hmove ih => exact hmove.explored (Graph.Reaches.trail hrun hg) ih

/-- When the way is empty, the nodes that were met were left. -/
theorem Trail.left_of_touched {g : Graph} {w : Walk} (h : Trail g w.nodes w.stack)
    (hstack : w.stack = []) {key : String} (hkey : key ∈ g.keys) (htouched : w.Touched key) :
    w.nodes.Left key := by
  obtain ⟨node, hnode⟩ := Ledger.mem_keys_iff.mp (h.shape.mem_keys.mpr hkey)
  refine ⟨node, hnode, (htouched node hnode).resolve_right fun hvisiting => ?_⟩
  have hmem := (h.visiting_iff hnode).mp hvisiting
  rw [hstack] at hmem
  cases hmem

/-- A sort that returns has left every node. -/
theorem Graph.Untouched.left_of_sort {g : Graph} (hg : g.Untouched) {w : Walk}
    (h : g.sort = .ok w) {key : String} (hkey : key ∈ g.keys) : w.nodes.Left key := by
  obtain ⟨hreaches, hstack, htouched⟩ := Graph.sort_ok h
  exact (hreaches.trail hg).left_of_touched hstack hkey (htouched key hkey)

/-- **A graph whose sort returns has no cycle.**  Every descent along edges ends. -/
theorem Graph.Untouched.wellFounded_of_sort {g : Graph} (hg : g.Untouched) {w : Walk}
    (h : g.sort = .ok w) : WellFounded fun importer provider => g.Feeds provider importer := by
  obtain ⟨hreaches, _, _⟩ := Graph.sort_ok h
  refine ⟨fun key => ?_⟩
  by_cases hkey : key ∈ g.keys
  · exact (hreaches.explored hg).descends (hg.left_of_sort h hkey)
  · refine ⟨key, fun importer hfeeds => absurd ?_ hkey⟩
    obtain ⟨node, hnode, _⟩ := hfeeds
    exact Ledger.mem_keys_iff.mpr ⟨node, hnode⟩

end PluginOrder
