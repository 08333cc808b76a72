import PluginOrder.Proofs.Graph.Basic
import PluginOrder.Proofs.Walk.Termination
import Mathlib.Data.List.Chain
import Mathlib.Data.List.Nodup

/-!
# The way of a walk

`Trail` is what holds at any time of a walk over an untouched graph.  The nodes keep their edges,
the marked nodes are those on the way, none is on the way twice, and along the way each node
feeds the next one.  The marks of a node and its verdict go together: a node that was never met
is valid, and a node on the way for the second time is not.

With it, a walk over an untouched graph can only halt by meeting a node that is on its way, and
the identifiers that it then reports run once around a cycle (`circle_of_sort`).
-/

namespace PluginOrder

/-- What holds of the nodes and of the way at any time of a walk over a graph. -/
structure Trail (g nodes : Graph) (stack : List Frame) : Prop where
  shape : g.SameShape nodes
  known : ∀ key ∈ stack.map (·.key), key ∈ nodes.keys
  visiting_iff : ∀ {key : String} {node : Node}, nodes.get? key = some node →
    (node.visiting = true ↔ key ∈ stack.map (·.key))
  nodup : (stack.map (·.key)).Nodup
  chain : (stack.map (·.key)).IsChain fun upper lower => g.Feeds lower upper
  valid_of_marks : ∀ {key : String} {node : Node}, nodes.get? key = some node →
    node.visited = node.visiting → node.valid = !node.visited
  error_ne_none : ∀ {key : String} {node : Node}, nodes.get? key = some node →
    node.valid = false → node.error ≠ none

variable {g nodes : Graph} {stack : List Frame}

namespace Trail

theorem start (hg : g.Untouched) : Trail g g [] where
  shape := .refl g
  known := by simp
  visiting_iff := by
    intro key node hnode
    simp [hg.visiting_eq hnode]
  nodup := by simp
  chain := by simp
  valid_of_marks := by
    intro key node hnode _
    rw [hg.valid_eq hnode, hg.visited_eq hnode]
    rfl
  error_ne_none := by
    intro key node hnode hvalid
    exact absurd ⟨node, hnode, hvalid⟩ (hg.not_denied key)

theorem id_eq (h : Trail g nodes stack) (hg : g.Untouched) {key : String} {node : Node}
    (hnode : nodes.get? key = some node) : node.id = key := by
  obtain ⟨node₀, hnode₀, hid, _⟩ := h.shape.of_get? hnode
  rw [← hid, hg.id_eq hnode₀]

theorem get?_top {frame : Frame} {below : List Frame} (h : Trail g nodes (frame :: below)) :
    nodes.get? frame.key ≠ none :=
  fun hnone => Ledger.get?_eq_none_iff.mp hnone (h.known _ List.mem_cons_self)

theorem not_mem_of_visiting (h : Trail g nodes stack) {key : String} {node : Node}
    (hnode : nodes.get? key = some node) (hvisiting : node.visiting = false) :
    key ∉ stack.map (·.key) := by
  rw [← h.visiting_iff hnode, hvisiting]
  exact Bool.false_ne_true

/-- Only the keys of the frames matter. -/
theorem of_keys (h : Trail g nodes stack) {stack' : List Frame}
    (hkeys : stack'.map (·.key) = stack.map (·.key)) : Trail g nodes stack' where
  shape := h.shape
  known := by rw [hkeys]; exact h.known
  visiting_iff := by rw [hkeys]; exact h.visiting_iff
  nodup := by rw [hkeys]; exact h.nodup
  chain := by rw [hkeys]; exact h.chain
  valid_of_marks := h.valid_of_marks
  error_ne_none := h.error_ne_none

/-- A node with a negative verdict is not entered any more. -/
theorem valid_of_needsVisit (h : Trail g nodes stack) {key : String} {node : Node} {valid : Bool}
    (hnode : nodes.get? key = some node) (hneeds : node.needsVisit valid = true)
    (hvisiting : node.visiting = false) : node.valid = true := by
  cases hvisited : node.visited with
  | false => rw [h.valid_of_marks hnode (by rw [hvisited, hvisiting]), hvisited]; rfl
  | true =>
      simp only [Node.needsVisit, hvisited, Bool.not_true, Bool.false_or,
        Bool.and_eq_true] at hneeds
      exact hneeds.1

theorem push (h : Trail g nodes stack) {key : String} {valid : Bool} {error : Option Rejection}
    {target : Node} (htarget : nodes.get? key = some target)
    (hneeds : target.needsVisit valid = true) (hvisiting : target.visiting = false)
    (hfeeds : ∀ upper ∈ (stack.map (·.key)).head?, g.Feeds upper key)
    (herror : valid = false → error ≠ none) :
    Trail g (nodes.modify key fun node => node.entered valid error) (⟨key, 0⟩ :: stack) where
  shape := h.shape.modify key (fun _ => rfl) (fun _ => rfl)
  known := by
    intro other hother
    rw [Ledger.keys_modify]
    rcases List.mem_cons.mp hother with rfl | hold
    · exact Ledger.mem_keys_iff.mpr ⟨target, htarget⟩
    · exact h.known other hold
  visiting_iff := by
    intro other node hnode
    rcases Ledger.get?_modify_eq_some_iff.mp hnode with ⟨rfl, old, _, rfl⟩ | ⟨hne, hold⟩
    · simp [Node.entered]
    · rw [h.visiting_iff hold]
      simp [hne]
  nodup := List.nodup_cons.mpr ⟨h.not_mem_of_visiting htarget hvisiting, h.nodup⟩
  chain := List.isChain_cons.mpr ⟨hfeeds, h.chain⟩
  valid_of_marks := by
    intro other node hnode hmarks
    rcases Ledger.get?_modify_eq_some_iff.mp hnode with ⟨rfl, old, hold, rfl⟩ | ⟨_, hold⟩
    · rw [htarget] at hold
      cases hold
      -- the node was visited before, so only a bad link can ask for a visit
      have hvisited : target.visited = true := hmarks
      simp only [Node.needsVisit, hvisited, Bool.not_true, Bool.false_or, Bool.and_eq_true,
        Bool.not_eq_eq_eq_not] at hneeds
      simp [Node.entered, hvisited, hneeds.2]
    · exact h.valid_of_marks hold hmarks
  error_ne_none := by
    intro other node hnode hvalid
    rcases Ledger.get?_modify_eq_some_iff.mp hnode with ⟨rfl, old, _, rfl⟩ | ⟨_, hold⟩
    · exact herror hvalid
    · exact h.error_ne_none hold hvalid

theorem pop {frame : Frame} {below : List Frame} (h : Trail g nodes (frame :: below)) :
    Trail g (nodes.modify frame.key Node.left) below where
  shape := h.shape.modify frame.key (fun _ => rfl) (fun _ => rfl)
  known := by
    intro key hkey
    rw [Ledger.keys_modify]
    exact h.known key (List.mem_cons_of_mem _ hkey)
  visiting_iff := by
    have hnodup := List.nodup_cons.mp h.nodup
    intro key node hnode
    rcases Ledger.get?_modify_eq_some_iff.mp hnode with ⟨rfl, old, _, rfl⟩ | ⟨hne, hold⟩
    · simpa [Node.left] using hnodup.1
    · rw [h.visiting_iff hold, List.map_cons, List.mem_cons, or_iff_right hne]
  nodup := (List.nodup_cons.mp h.nodup).2
  chain := List.IsChain.of_cons h.chain
  valid_of_marks := by
    intro key node hnode hmarks
    rcases Ledger.get?_modify_eq_some_iff.mp hnode with ⟨rfl, old, _, rfl⟩ | ⟨_, hold⟩
    · -- a node that was left is visited and not on the way, so its marks differ
      simp [Node.left] at hmarks
    · exact h.valid_of_marks hold hmarks
  error_ne_none := by
    intro key node hnode hvalid
    rcases Ledger.get?_modify_eq_some_iff.mp hnode with ⟨rfl, old, hold, rfl⟩ | ⟨_, hold⟩
    · have herror : old.error ≠ none := h.error_ne_none hold hvalid
      exact herror
    · exact h.error_ne_none hold hvalid

end Trail

/-! ## Links on a trail -/

namespace Walk

variable {w w' : Walk} {key : String} {valid : Bool} {error : Option Rejection}

theorem Link.feeds (hlink : w.Link key valid error) (h : Trail g w.nodes w.stack) :
    ∀ upper ∈ (w.stack.map (·.key)).head?, g.Feeds upper key := by
  intro upper hupper
  cases hlink with
  | root hstack _ => simp [hstack] at hupper
  | @edge frame below node edge hstack hnode hedge =>
      have hhead : frame.key = upper := by simpa [hstack] using hupper
      rw [← hhead]
      exact h.shape.feeds hnode (List.mem_of_getElem? hedge)

/-- A bad link has a reason. -/
theorem Link.error_ne_none (hlink : w.Link key valid error) (hg : g.Untouched)
    (h : Trail g w.nodes w.stack) (hvalid : valid = false) : error ≠ none := by
  cases hlink with
  | root _ _ => cases hvalid
  | @edge frame below node edge _ hnode hedge =>
      obtain ⟨node₀, hnode₀, _, hsame⟩ := h.shape.of_get? hnode
      have hmem : edge ∈ node₀.dependents := hsame ▸ List.mem_of_getElem? hedge
      exact linkError_ne_none hvalid (hg.error_ne_none hnode₀ edge hmem)

/-- A link leads to a node. -/
theorem Link.mem_keys (hlink : w.Link key valid error) (hg : g.Untouched)
    (h : Trail g w.nodes w.stack) : key ∈ w.nodes.keys := by
  cases hlink with
  | root _ hkey => exact hkey
  | @edge frame below node edge _ hnode hedge =>
      obtain ⟨node₀, hnode₀, _, hsame⟩ := h.shape.of_get? hnode
      exact h.shape.mem_keys.mpr
        (hg.importer_mem hnode₀ edge (hsame ▸ List.mem_of_getElem? hedge))

theorem trail_advance (h : Trail g w.nodes w.stack) : Trail g w.advance.nodes w.advance.stack := by
  rw [nodes_advance]
  exact h.of_keys (keys_advance w)

/-- A move keeps the trail. -/
theorem Move.trail (hmove : w.Move w') (hg : g.Untouched) (h : Trail g w.nodes w.stack) :
    Trail g w'.nodes w'.stack := by
  cases hmove with
  | pass _ _ _ => exact trail_advance h
  | enter hlink htarget hneeds hvisiting =>
      rw [← nodes_advance] at htarget
      refine (trail_advance h).push htarget hneeds hvisiting ?_ (hlink.error_ne_none hg h)
      rw [keys_advance]
      exact hlink.feeds h
  | accept hstack _ _ _ | reject hstack _ _ _ _ =>
      rw [hstack] at h
      exact h.pop
  | drop hstack hnone =>
      rw [hstack] at h
      exact absurd hnone h.get?_top

end Walk

theorem Graph.Reaches.trail {w : Walk} (hreaches : g.Reaches w) (hg : g.Untouched) :
    Trail g w.nodes w.stack := by
  induction hreaches with
  | refl => exact .start hg
  | tail _ hmove ih => exact hmove.trail hg ih

/-! ## The evidence of a cycle -/

/-- The identifiers run once around a cycle of the graph. -/
structure Graph.Circle (g : Graph) (ids : List String) : Prop where
  two_le_length : 2 ≤ ids.length
  head?_eq : ids.head? = ids.getLast?
  nodup : ids.dropLast.Nodup
  chain : ids.IsChain g.Feeds

namespace Walk

variable {w : Walk}

/-- On a trail, where identifiers are keys, the way is the stack from its bottom. -/
theorem way_eq (hg : g.Untouched) (h : Trail g w.nodes w.stack) :
    w.way = (w.stack.map (·.key)).reverse := by
  unfold way
  congr 1
  refine List.map_congr_left fun frame hframe => ?_
  obtain ⟨node, hnode⟩ := Ledger.mem_keys_iff.mp
    (h.known frame.key (List.mem_map_of_mem (f := (·.key)) hframe))
  simp only [idOf, hnode, h.id_eq hg hnode]

/-- The part of a way from one of its nodes on starts with that node. -/
theorem dropWhile_of_mem {ids : List String} {id : String} (hmem : id ∈ ids) :
    ∃ rest, ids.dropWhile (· != id) = id :: rest := by
  induction ids with
  | nil => cases hmem
  | cons first rest ih =>
      by_cases heq : first = id
      · exact ⟨rest, by simp [heq]⟩
      · have hrest : id ∈ rest := (List.mem_cons.mp hmem).resolve_left (Ne.symm heq)
        rw [List.dropWhile_cons, if_pos (by simpa using heq)]
        exact ih hrest

/-- **The evidence of a cycle.**  A node on the way that the innermost node feeds closes a cycle,
which `haltAt` cuts out of the way. -/
theorem circle_haltAt (hg : g.Untouched) (h : Trail g w.nodes w.stack) {id : String}
    (hmem : id ∈ w.stack.map (·.key))
    (hfeeds : ∀ upper ∈ (w.stack.map (·.key)).head?, g.Feeds upper id) :
    ∃ ids, (w.haltAt id).fault = .cycle ids ∧ g.Circle ids := by
  have hway := way_eq hg h
  obtain ⟨rest, hcut⟩ := dropWhile_of_mem (List.mem_reverse.mpr hmem)
  have hsuffix : (id :: rest) <:+ (w.stack.map (·.key)).reverse := hcut ▸ List.dropWhile_suffix _
  have hnodup : (id :: rest).Nodup := (List.nodup_reverse.mpr h.nodup).sublist hsuffix.sublist
  have hchain : (id :: rest).IsChain g.Feeds :=
    (List.isChain_reverse.mpr h.chain).suffix hsuffix
  -- the part ends where the way does, at the innermost node
  have hlast : ∀ upper ∈ (id :: rest).getLast?, g.Feeds upper id := by
    intro upper hupper
    refine hfeeds upper ?_
    rw [← List.getLast?_reverse]
    obtain ⟨front, hfront⟩ := hsuffix
    rw [← hfront, List.getLast?_append_of_ne_nil _ (List.cons_ne_nil _ _)]
    exact hupper
  refine ⟨id :: rest ++ [id], ?_, ?_, ?_, ?_, ?_⟩
  · simp [haltAt, hway, hcut]
  · simp
  · rw [List.getLast?_concat]; rfl
  · rw [List.dropLast_concat]; exact hnodup
  · refine List.isChain_append.mpr ⟨hchain, by simp, ?_⟩
    intro upper hupper lower hlower
    have heq : id = lower := by simpa using hlower
    rw [← heq]
    exact hlast upper hupper

/-- A walk over an untouched graph only halts when its innermost node takes an edge to a node that
is on the way. -/
theorem Stop.exists_edge {halt : Halt} (hstop : w.Stop halt) (hg : g.Untouched)
    (h : Trail g w.nodes w.stack) :
    ∃ frame below node edge, w.stack = frame :: below ∧ w.nodes.get? frame.key = some node ∧
      node.dependents[frame.next]? = some edge ∧ edge.importer ∈ w.stack.map (·.key) ∧
      halt = w.advance.haltAt edge.importer := by
  cases hstop with
  | unknown hlink htarget =>
      exact absurd (hlink.mem_keys hg h) (Ledger.get?_eq_none_iff.mp htarget)
  | @again key valid error target hlink htarget _ hvisiting =>
      have hmem : key ∈ w.stack.map (·.key) := (h.visiting_iff htarget).mp hvisiting
      rw [h.id_eq hg htarget]
      cases hlink with
      | root hstack _ => simp [hstack] at hmem
      | edge hstack hnode hedge => exact ⟨_, _, _, _, hstack, hnode, hedge, hmem, rfl⟩
  | unjustified _ hnode _ hvalid hreason =>
      exact absurd hreason (h.error_ne_none hnode hvalid)

/-- A walk over an untouched graph only halts at a cycle. -/
theorem Stop.circle {halt : Halt} (hstop : w.Stop halt) (hg : g.Untouched)
    (h : Trail g w.nodes w.stack) : ∃ ids, halt.fault = .cycle ids ∧ g.Circle ids := by
  obtain ⟨frame, below, node, edge, hstack, hnode, hedge, hmem, rfl⟩ := hstop.exists_edge hg h
  refine circle_haltAt hg (trail_advance h) (by rwa [keys_advance]) ?_
  rw [keys_advance]
  exact (Link.edge hstack hnode hedge).feeds h

end Walk

/-- **A sort of an untouched graph only fails at a cycle.** -/
theorem Graph.Untouched.circle_of_sort (hg : g.Untouched) {halt : Halt}
    (h : g.sort = .error halt) : ∃ ids, halt.fault = .cycle ids ∧ g.Circle ids := by
  obtain ⟨w, hreaches, hstop⟩ := Graph.sort_error h
  exact hstop.circle hg (hreaches.trail hg)

end PluginOrder
