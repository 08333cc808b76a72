import PluginOrder.Proofs.Walk.Verdict

/-!
# What a walk writes down

A walk writes an identifier in front of its order when it leaves the node as valid, and among its
rejects when it leaves the node as invalid.  `Recorded` ties both to the verdicts.  A node is only
left as valid on its first visit, so no identifier is in the order twice.  An identifier is written
when all that its node feeds was left before, so no node that it feeds stands in front of it
(`pairwise`).  A node that was left as valid and downgraded later stays in the order and is among
the rejects as well.

`Sorted` is the outcome: on an untouched graph a sort that returns rejects the doomed nodes, and
puts the other ones in an order in which every node comes before those that it feeds.
-/

namespace PluginOrder

/-- The order and the rejects agree with the verdicts. -/
structure Recorded (g nodes : Graph) (finished : List String) (rejects : Ledger Rejection) :
    Prop where
  mem_finished : ∀ {key : String} {node : Node}, nodes.get? key = some node →
    node.visited = true → node.valid = true → key ∈ finished
  left_of_mem : ∀ {key : String}, key ∈ finished → nodes.Left key
  nodup : finished.Nodup
  pairwise : finished.Pairwise fun first second => ¬ g.Feeds second first
  mem_rejects : ∀ {key : String} {node : Node}, nodes.get? key = some node →
    node.visited = true → node.visiting = false → node.valid = false → key ∈ rejects.keys
  denied_of_mem : ∀ {key : String}, key ∈ rejects.keys → nodes.Denied key

variable {g nodes : Graph} {stack below : List Frame} {frame : Frame} {node : Node}
  {finished : List String} {rejects : Ledger Rejection}

/-- A valid node on the way is there for the first time. -/
theorem Trail.visited_of_valid (h : Trail g nodes (frame :: below))
    (hnode : nodes.get? frame.key = some node) (hvalid : node.valid = true) :
    node.visited = false := by
  have hvisiting : node.visiting = true := (h.visiting_iff hnode).mpr (by simp)
  cases hvisited : node.visited with
  | false => rfl
  | true =>
      have hinvalid := h.valid_of_marks hnode (by rw [hvisited, hvisiting])
      rw [hvalid, hvisited] at hinvalid
      cases hinvalid

namespace Recorded

theorem start (hg : g.Untouched) : Recorded g g [] ∅ where
  mem_finished := by
    intro key node hnode hvisited
    exact absurd ⟨node, hnode, hvisited⟩ (hg.not_left key)
  left_of_mem := by simp
  nodup := by simp
  pairwise := by simp
  mem_rejects := by
    intro key node hnode hvisited
    exact absurd ⟨node, hnode, hvisited⟩ (hg.not_left key)
  denied_of_mem := by simp

theorem push (h : Recorded g nodes finished rejects) (htrail : Trail g nodes stack)
    {key : String} {valid : Bool} (error : Option Rejection) {target : Node}
    (htarget : nodes.get? key = some target) (hneeds : target.needsVisit valid = true)
    (hvisiting : target.visiting = false) :
    Recorded g (nodes.modify key fun node => node.entered valid error) finished rejects where
  mem_finished := by
    intro other node hnode hvisited hvalid
    rcases Ledger.get?_modify_eq_some_iff.mp hnode with ⟨rfl, old, hold, rfl⟩ | ⟨_, hold⟩
    · -- a second visit leaves no node valid
      rw [htarget] at hold
      cases hold
      have hbefore : target.visited = true := hvisited
      have hgood : valid = true := hvalid
      simp [Node.needsVisit, hbefore, hgood] at hneeds
    · exact h.mem_finished hold hvisited hvalid
  left_of_mem := fun hmem => Graph.left_entered.mpr (h.left_of_mem hmem)
  nodup := h.nodup
  pairwise := h.pairwise
  mem_rejects := by
    intro other node hnode hvisited hleft hinvalid
    rcases Ledger.get?_modify_eq_some_iff.mp hnode with ⟨rfl, old, _, rfl⟩ | ⟨_, hold⟩
    · simp [Node.entered] at hleft
    · exact h.mem_rejects hold hvisited hleft hinvalid
  denied_of_mem := fun hmem => htrail.denied_entered htarget hneeds hvisiting (h.denied_of_mem hmem)

theorem accept (h : Recorded g nodes finished rejects) (htrail : Trail g nodes (frame :: below))
    (hexplored : Explored g nodes.Left (frame :: below))
    (hnode : nodes.get? frame.key = some node) (hvalid : node.valid = true) :
    Recorded g (nodes.modify frame.key Node.left) (frame.key :: finished) rejects := by
  have hmem : frame.key ∈ nodes.keys := Ledger.mem_keys_iff.mpr ⟨node, hnode⟩
  have hfresh : ¬ nodes.Left frame.key := by
    intro hleft
    have hvisited := hleft.visited_eq hnode
    rw [htrail.visited_of_valid hnode hvalid] at hvisited
    cases hvisited
  constructor
  case mem_finished =>
    intro key other hother hvisited hgood
    rcases Ledger.get?_modify_eq_some_iff.mp hother with ⟨rfl, _⟩ | ⟨_, hold⟩
    · exact List.mem_cons_self
    · exact List.mem_cons_of_mem _ (h.mem_finished hold hvisited hgood)
  case left_of_mem =>
    intro key hkey
    rw [Graph.left_left hmem]
    exact (List.mem_cons.mp hkey).symm.imp_left h.left_of_mem
  case nodup => exact List.nodup_cons.mpr ⟨fun hin => hfresh (h.left_of_mem hin), h.nodup⟩
  case pairwise =>
    refine List.pairwise_cons.mpr ⟨fun provider hin hfeeds => ?_, h.pairwise⟩
    -- what a node of the order feeds was left with it, and this node was not left before
    exact hfresh (hexplored.closed (h.left_of_mem hin) hfeeds)
  case mem_rejects =>
    intro key other hother hvisited hleft hinvalid
    rcases Ledger.get?_modify_eq_some_iff.mp hother with ⟨rfl, old, hold, rfl⟩ | ⟨_, hold⟩
    · -- leaving a node does not change its verdict
      rw [hnode] at hold
      cases hold
      have hbad : node.valid = false := hinvalid
      rw [hvalid] at hbad
      cases hbad
    · exact h.mem_rejects hold hvisited hleft hinvalid
  case denied_of_mem => exact fun hin => Graph.denied_left.mpr (h.denied_of_mem hin)

theorem reject (h : Recorded g nodes finished rejects) (hnode : nodes.get? frame.key = some node)
    (hvalid : node.valid = false) (reason : Rejection) :
    Recorded g (nodes.modify frame.key Node.left) finished (rejects.insert frame.key reason) where
  mem_finished := by
    intro key other hother hvisited hgood
    rcases Ledger.get?_modify_eq_some_iff.mp hother with ⟨rfl, old, hold, rfl⟩ | ⟨_, hold⟩
    · -- a node that is rejected has a negative verdict
      rw [hnode] at hold
      cases hold
      have hbad : node.valid = true := hgood
      rw [hvalid] at hbad
      cases hbad
    · exact h.mem_finished hold hvisited hgood
  left_of_mem := by
    intro key hkey
    rw [Graph.left_left (Ledger.mem_keys_iff.mpr ⟨node, hnode⟩)]
    exact Or.inl (h.left_of_mem hkey)
  nodup := h.nodup
  pairwise := h.pairwise
  mem_rejects := by
    intro key other hother hvisited hleft hinvalid
    rw [Ledger.mem_keys_insert]
    rcases Ledger.get?_modify_eq_some_iff.mp hother with ⟨rfl, _⟩ | ⟨hne, hold⟩
    · exact Or.inr rfl
    · exact Or.inl (h.mem_rejects hold hvisited
        (by simpa [Ledger.get?_modify, hne] using hleft) hinvalid)
  denied_of_mem := by
    intro key hkey
    rw [Graph.denied_left]
    rcases Ledger.mem_keys_insert.mp hkey with hold | rfl
    · exact h.denied_of_mem hold
    · exact ⟨node, hnode, hvalid⟩

end Recorded

theorem Walk.Move.recorded {w w' : Walk} (hmove : w.Move w') (hg : g.Untouched)
    (htrail : Trail g w.nodes w.stack) (hexplored : Explored g w.nodes.Left w.stack)
    (h : Recorded g w.nodes w.finished w.rejects) :
    Recorded g w'.nodes w'.finished w'.rejects := by
  cases hmove with
  | pass _ _ _ => simpa using h
  | @enter key valid error target _ htarget hneeds hvisiting =>
      simp only [Walk.push, Walk.nodes_advance, Walk.finished_advance, Walk.rejects_advance]
      exact h.push htrail error htarget hneeds hvisiting
  | @accept frame below node hstack hnode _ hvalid =>
      have hid := htrail.id_eq hg hnode
      rw [hstack] at htrail hexplored
      simp only [Walk.accepting, Walk.pop, hid]
      exact h.accept htrail hexplored hnode hvalid
  | @reject frame below node reason hstack hnode _ hvalid _ =>
      simp only [Walk.rejecting, Walk.pop, Walk.report, htrail.id_eq hg hnode]
      exact h.reject hnode hvalid reason
  | drop _ _ => exact h

theorem Graph.Reaches.recorded {w : Walk} (hreaches : g.Reaches w) (hg : g.Untouched) :
    Recorded g w.nodes w.finished w.rejects := by
  induction hreaches with
  | refl => exact .start hg
  | tail hrun hmove ih =>
      exact hmove.recorded hg (Graph.Reaches.trail hrun hg) (Graph.Reaches.explored hrun hg) ih

/-- Only nodes of the graph are left. -/
theorem Graph.Untouched.mem_keys_of_finished (hg : g.Untouched) {w : Walk} (h : g.sort = .ok w)
    {key : String} (hmem : key ∈ w.finished) : key ∈ g.keys := by
  obtain ⟨hreaches, _, _⟩ := Graph.sort_ok h
  obtain ⟨node, hnode, _⟩ := (hreaches.recorded hg).left_of_mem hmem
  exact (hreaches.trail hg).shape.mem_keys.mp (Ledger.mem_keys_iff.mpr ⟨node, hnode⟩)

/-! ## The outcome of a sort -/

/-- What a sort of a graph comes to. -/
structure Graph.Sorted (g : Graph) (w : Walk) : Prop where
  mem_rejects_iff : ∀ {key : String}, key ∈ w.rejects.keys ↔ g.Doomed key
  mem_finished : ∀ {key : String}, key ∈ g.keys → ¬ g.Doomed key → key ∈ w.finished
  nodup : w.finished.Nodup
  pairwise : w.finished.Pairwise fun first second => ¬ g.Feeds second first

/-- **The outcome of a sort.** -/
theorem Graph.Untouched.sorted (hg : g.Untouched) {w : Walk} (h : g.sort = .ok w) :
    g.Sorted w := by
  obtain ⟨hreaches, hstack, _⟩ := Graph.sort_ok h
  have htrail := hreaches.trail hg
  have hrecorded := hreaches.recorded hg
  rw [hstack] at htrail
  refine ⟨fun {key} => ⟨fun hmem => ?_, fun hdoomed => ?_⟩, fun {key} hkey hsound => ?_,
    hrecorded.nodup, hrecorded.pairwise⟩
  · exact (hg.denied_iff h).mp (hrecorded.denied_of_mem hmem)
  · obtain ⟨node, hnode, hinvalid⟩ := (hg.denied_iff h).mpr hdoomed
    have hkey : key ∈ g.keys :=
      htrail.shape.mem_keys.mp (Ledger.mem_keys_iff.mpr ⟨node, hnode⟩)
    have hvisited := (hg.left_of_sort h hkey).visited_eq hnode
    exact hrecorded.mem_rejects hnode hvisited (htrail.visiting_of_nil hnode) hinvalid
  · obtain ⟨node, hnode, hvisited⟩ := hg.left_of_sort h hkey
    -- a node that is not doomed is left with a positive verdict
    have hvalid : node.valid = true := by
      by_contra hinvalid
      exact hsound ((hg.denied_iff h).mp ⟨node, hnode, by simpa using hinvalid⟩)
    exact hrecorded.mem_finished hnode hvisited hvalid

end PluginOrder
