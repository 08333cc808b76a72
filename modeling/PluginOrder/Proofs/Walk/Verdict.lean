import PluginOrder.Proofs.Walk.Exploration

/-!
# The verdicts of a walk

A walk hands bad links on as it goes, revisits what it had left as valid, and reads the verdict
of a node while the node is still on the way.  `Judged` says why this comes out right.  A verdict
is only made negative along a bad link, so it is never wrong (`doomed`).  And whatever a node
should hand on has been handed on: along all edges of a node that was left (`spread`), and along
the edges that were taken from a node on the way (`taken`), whose verdict stands still meanwhile.
A node that is downgraded goes back on the way with no edge taken, so nothing is claimed of it
until its edges are taken anew.

When a sort returns, the nodes with a negative verdict are the doomed ones (`denied_iff`).
-/

namespace PluginOrder

/-- An edge that ought to hand on a negative verdict has done so. -/
def Node.HandsOn (node : Node) (nodes : Graph) (edge : Edge) : Prop :=
  (node.valid && edge.valid) = false → nodes.Denied edge.importer

/-- The verdicts are justified, and spread as far as edges were taken. -/
structure Judged (g nodes : Graph) (stack : List Frame) : Prop where
  spread : ∀ {key : String} {node : Node}, nodes.get? key = some node → node.visited = true →
    node.visiting = false → ∀ edge ∈ node.dependents, node.HandsOn nodes edge
  taken : ∀ frame ∈ stack, ∀ {node : Node}, nodes.get? frame.key = some node →
    ∀ edge ∈ node.dependents.take frame.next, node.HandsOn nodes edge
  doomed : ∀ {key : String}, nodes.Denied key → g.Doomed key

variable {g nodes : Graph} {stack : List Frame}

theorem Graph.denied_left {target key : String} :
    Denied (nodes.modify target Node.left) key ↔ nodes.Denied key := by
  constructor
  · rintro ⟨node, hnode, hvalid⟩
    rcases Ledger.get?_modify_eq_some_iff.mp hnode with ⟨rfl, old, hold, rfl⟩ | ⟨_, hold⟩
    · exact ⟨old, hold, hvalid⟩
    · exact ⟨node, hold, hvalid⟩
  · exact fun h => h.modify target fun _ _ hvalid => hvalid

/-- Entering a node keeps all negative verdicts, since no node that has one is entered. -/
theorem Trail.denied_entered (h : Trail g nodes stack) {target : String} {node : Node}
    {valid : Bool} {error : Option Rejection} (hnode : nodes.get? target = some node)
    (hneeds : node.needsVisit valid = true) (hvisiting : node.visiting = false) {key : String}
    (hdenied : nodes.Denied key) :
    Graph.Denied (nodes.modify target fun node => node.entered valid error) key := by
  refine hdenied.modify target fun old hold hvalid => ?_
  rw [hnode] at hold
  cases hold
  rw [h.valid_of_needsVisit hnode hneeds hvisiting] at hvalid
  cases hvalid

namespace Judged

theorem start (hg : g.Untouched) : Judged g g [] where
  spread := by
    intro key node hnode hvisited
    exact absurd ⟨node, hnode, hvisited⟩ (hg.not_left key)
  taken := by simp
  doomed := fun hdenied => absurd hdenied (hg.not_denied _)

/-- Taking an edge that has handed on what it ought to. -/
theorem take (above : List Frame) {below : List Frame} {frame : Frame} {node : Node} {edge : Edge}
    (h : Judged g nodes (above ++ frame :: below)) (hnode : nodes.get? frame.key = some node)
    (hedge : node.dependents[frame.next]? = some edge) (hhands : node.HandsOn nodes edge) :
    Judged g nodes (above ++ { frame with next := frame.next + 1 } :: below) where
  spread := h.spread
  taken := by
    intro other hother node' hnode' edge' hedge'
    -- one frame has one more edge taken, the others are as they were
    have hcases : other = { frame with next := frame.next + 1 } ∨
        other ∈ above ++ frame :: below := by
      rcases List.mem_append.mp hother with habove | hrest
      · exact Or.inr (List.mem_append_left _ habove)
      · exact (List.mem_cons.mp hrest).imp_right fun hbelow =>
          List.mem_append_right _ (List.mem_cons_of_mem _ hbelow)
    rcases hcases with rfl | hold
    · rw [hnode] at hnode'
      cases hnode'
      rcases (Node.mem_take_succ hedge).mp hedge' with hbefore | rfl
      · exact h.taken frame (by simp) hnode edge' hbefore
      · exact hhands
    · exact h.taken other hold hnode' edge' hedge'
  doomed := h.doomed

/-- Entering a node by a link that is only bad if the node is doomed. -/
theorem push (h : Judged g nodes stack) (htrail : Trail g nodes stack) {key : String}
    {valid : Bool} (error : Option Rejection) {target : Node}
    (htarget : nodes.get? key = some target) (hneeds : target.needsVisit valid = true)
    (hvisiting : target.visiting = false) (hdoomed : valid = false → g.Doomed key) :
    Judged g (nodes.modify key fun node => node.entered valid error) (⟨key, 0⟩ :: stack) where
  spread := by
    intro other node hnode hvisited hleft edge hedge hbad
    rcases Ledger.get?_modify_eq_some_iff.mp hnode with ⟨rfl, old, _, rfl⟩ | ⟨_, hold⟩
    · simp [Node.entered] at hleft
    · exact htrail.denied_entered htarget hneeds hvisiting
        (h.spread hold hvisited hleft edge hedge hbad)
  taken := by
    intro frame hframe node hnode edge hedge hbad
    rcases List.mem_cons.mp hframe with rfl | hmem
    · simp at hedge
    · rcases Ledger.get?_modify_eq_some_iff.mp hnode with ⟨hkey, _⟩ | ⟨_, hold⟩
      · -- the node is not on the way yet
        have hway : key ∈ stack.map (·.key) := hkey ▸ List.mem_map_of_mem hmem
        exact absurd hway (htrail.not_mem_of_visiting htarget hvisiting)
      · exact htrail.denied_entered htarget hneeds hvisiting
          (h.taken frame hmem hold edge hedge hbad)
  doomed := by
    rintro other ⟨node, hnode, hinvalid⟩
    rcases Ledger.get?_modify_eq_some_iff.mp hnode with ⟨rfl, old, _, rfl⟩ | ⟨_, hold⟩
    · exact hdoomed hinvalid
    · exact h.doomed ⟨node, hold, hinvalid⟩

/-- Leaving a node that has no edge left. -/
theorem pop {frame : Frame} {below : List Frame} {node : Node}
    (h : Judged g nodes (frame :: below)) (htrail : Trail g nodes (frame :: below))
    (hnode : nodes.get? frame.key = some node)
    (hdone : node.dependents[frame.next]? = none) :
    Judged g (nodes.modify frame.key Node.left) below where
  spread := by
    intro key node' hnode' hvisited hleft edge hedge hbad
    rw [Graph.denied_left]
    rcases Ledger.get?_modify_eq_some_iff.mp hnode' with ⟨rfl, old, hold, rfl⟩ | ⟨_, hold⟩
    · rw [hnode] at hold
      cases hold
      -- the frame had taken all the edges of its node
      refine h.taken frame List.mem_cons_self hnode edge ?_ hbad
      rwa [List.take_of_length_le (List.getElem?_eq_none_iff.mp hdone)]
    · exact h.spread hold hvisited hleft edge hedge hbad
  taken := by
    intro other hother node' hnode' edge hedge hbad
    rw [Graph.denied_left]
    have hne : other.key ≠ frame.key := by
      intro heq
      have hmem : other.key ∈ below.map (·.key) := List.mem_map_of_mem hother
      rw [heq] at hmem
      exact (List.nodup_cons.mp htrail.nodup).1 hmem
    have hold : nodes.get? other.key = some node' := by
      rwa [Ledger.get?_modify, if_neg hne] at hnode'
    exact h.taken other (List.mem_cons_of_mem _ hother) hold edge hedge hbad
  doomed := by
    intro key hdenied
    exact h.doomed (Graph.denied_left.mp hdenied)

end Judged

namespace Walk

variable {w w' : Walk} {key : String} {valid : Bool} {error : Option Rejection}

/-- A link is only bad if it leads to a doomed node. -/
theorem Link.doomed (hlink : w.Link key valid error) (htrail : Trail g w.nodes w.stack)
    (h : Judged g w.nodes w.stack) (hvalid : valid = false) : g.Doomed key := by
  cases hlink with
  | root _ _ => cases hvalid
  | @edge frame below node edge _ hnode hedge =>
      obtain ⟨node₀, hnode₀, hsame⟩ := dependents_eq htrail hnode
      have hmem : edge ∈ node₀.dependents := hsame ▸ List.mem_of_getElem? hedge
      rcases Bool.and_eq_false_iff.mp hvalid with hnodeInvalid | hedgeInvalid
      · exact .cascade hnode₀ hmem (h.doomed ⟨node, hnode, hnodeInvalid⟩)
      · exact .bad hnode₀ hmem hedgeInvalid

/-- A bad link that asks for no visit leads to a node with a negative verdict. -/
theorem denied_of_not_needsVisit {target : Node} (htarget : nodes.get? key = some target)
    (hneeds : target.needsVisit false = false) : nodes.Denied key := by
  simp only [Node.needsVisit, Bool.or_eq_false_iff, Bool.not_false, Bool.and_true] at hneeds
  exact ⟨target, htarget, hneeds.2⟩

theorem Move.judged (hmove : w.Move w') (htrail : Trail g w.nodes w.stack)
    (h : Judged g w.nodes w.stack) : Judged g w'.nodes w'.stack := by
  cases hmove with
  | @pass key valid error target hlink htarget hneeds =>
      rw [nodes_advance]
      cases hlink with
      | root hstack _ => rwa [advance_of_stack_nil hstack]
      | @edge frame below node edge hstack hnode hedge =>
          rw [hstack] at h
          simp only [advance, hstack]
          refine Judged.take [] h hnode hedge fun hbad => ?_
          rw [hbad] at hneeds
          exact denied_of_not_needsVisit htarget hneeds
  | @enter key valid error target hlink htarget hneeds hvisiting =>
      have hpush := h.push htrail error htarget hneeds hvisiting (hlink.doomed htrail h)
      simp only [push, nodes_advance]
      cases hlink with
      | root hstack _ => rwa [advance_of_stack_nil hstack]
      | @edge frame below node edge hstack hnode hedge =>
          rw [hstack] at hpush
          simp only [advance, hstack]
          -- the node that is entered is not the one the edge comes from
          have hne : frame.key ≠ edge.importer := by
            intro heq
            have hway : edge.importer ∈ w.stack.map (·.key) := by simp [hstack, heq]
            exact htrail.not_mem_of_visiting htarget hvisiting hway
          refine Judged.take [⟨edge.importer, 0⟩] hpush
            (by rw [Ledger.get?_modify, if_neg hne]; exact hnode) hedge fun hbad => ?_
          exact ⟨target.entered _ _, by rw [Ledger.get?_modify_self, htarget]; rfl, hbad⟩
  | accept hstack hnode hdone _ | reject hstack hnode hdone _ _ =>
      rw [hstack] at h htrail
      exact h.pop htrail hnode hdone
  | drop hstack hnone =>
      rw [hstack] at htrail
      exact absurd hnone htrail.get?_top

end Walk

theorem Graph.Reaches.judged {w : Walk} (hreaches : g.Reaches w) (hg : g.Untouched) :
    Judged g w.nodes w.stack := by
  induction hreaches with
  | refl => exact .start hg
  | tail hrun hmove ih => exact hmove.judged (Graph.Reaches.trail hrun hg) ih

/-- Nothing on the way: the nodes that were left are not marked as being on it. -/
theorem Trail.visiting_of_nil {key : String} {node : Node} (h : Trail g nodes [])
    (hnode : nodes.get? key = some node) : node.visiting = false := by
  cases hvisiting : node.visiting with
  | false => rfl
  | true => cases (h.visiting_iff hnode).mp hvisiting

/-- **The verdict of a sort.**  When a sort returns, a node has a negative verdict if and only if
it is doomed. -/
theorem Graph.Untouched.denied_iff (hg : g.Untouched) {w : Walk} (h : g.sort = .ok w)
    {key : String} : w.nodes.Denied key ↔ g.Doomed key := by
  obtain ⟨hreaches, hstack, _⟩ := Graph.sort_ok h
  have htrail := hreaches.trail hg
  have hjudged := hreaches.judged hg
  rw [hstack] at htrail hjudged
  have hspread : ∀ {provider : String} {node₀ : Node} {edge : Edge},
      g.get? provider = some node₀ → edge ∈ node₀.dependents →
        (∀ node, w.nodes.get? provider = some node → (node.valid && edge.valid) = false) →
        w.nodes.Denied edge.importer := by
    intro provider node₀ edge hnode₀ hedge hbad
    obtain ⟨node, hnode, _, hsame⟩ := htrail.shape.get? hnode₀
    have hleft := hg.left_of_sort h (Ledger.mem_keys_iff.mpr ⟨node₀, hnode₀⟩)
    have hvisited := hleft.visited_eq hnode
    exact hjudged.spread hnode hvisited (htrail.visiting_of_nil hnode) edge (hsame ▸ hedge)
      (hbad node hnode)
  refine ⟨hjudged.doomed, fun hdoomed => ?_⟩
  -- every node was left, so along the edges by which a node is doomed all was handed on
  induction hdoomed with
  | bad hnode₀ hedge hinvalid =>
      exact hspread hnode₀ hedge fun node _ => by simp [hinvalid]
  | cascade hnode₀ hedge _ ih =>
      refine hspread hnode₀ hedge fun node hnode => ?_
      have hinvalid := ih.valid_eq hnode
      simp [hinvalid]

end PluginOrder
