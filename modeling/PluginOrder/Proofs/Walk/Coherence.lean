import PluginOrder.Proofs.Resolution.Cycle
import PluginOrder.Proofs.Walk.Course

/-!
# The invariant of the loop

The order, the verdicts and the evidence of a cycle rest on what holds whenever the loop of the
sorter begins a turn.  The marked nodes are those on the way, and none is there twice.  A frame
was put on the way by the edge that the frame below it took last (`Carries`).  And an edge that was
taken, by a frame or on a visit that is over, was followed (`Followed`): its importer was met, and
if the link is bad the importer knows it, or is on the way.

`Coherent` is the conjunction.  Most of it is carried along already, part by part: the marks by
`Trail`, the importers that were met by `Explored`, and the bad links by `Judged`, which even says
that they have been handed on.  What is left for an induction of its own is how the frames are
linked (`Move.linked`).

A walk that halts has taken one more edge, and has not handed its link on: the importer is on the
way, whatever its verdict, and this is why `Followed` admits both (`Stop.coherent`).
-/

namespace PluginOrder

/-- The edge that the lower of two frames took last leads to the node of the upper one. -/
def Graph.Carries (g : Graph) (upper lower : Frame) : Prop :=
  0 < lower.next ∧ ∃ node, g.get? lower.key = some node ∧
    ∃ edge, node.dependents[lower.next - 1]? = some edge ∧ edge.importer = upper.key

/-- An edge of a node was followed. -/
structure Node.Followed (node : Node) (nodes : Graph) (way : List String) (edge : Edge) : Prop where
  /-- Its importer was visited or is on the way. -/
  met : nodes.Left edge.importer ∨ edge.importer ∈ way
  /-- If the link is bad, by the edge or by the node, the importer has a negative verdict or is on
  the way. -/
  told : edge.valid = false ∨ node.valid = false →
    nodes.Denied edge.importer ∨ edge.importer ∈ way

/-- How the marks of the nodes, the way and the edges that were taken hang together. -/
structure Coherent (g nodes : Graph) (stack : List Frame) : Prop where
  /-- The nodes are those of the graph, with their edges. -/
  shape : g.SameShape nodes
  /-- The marked nodes are those on the way. -/
  visiting_iff : ∀ {key : String},
    (∃ node, nodes.get? key = some node ∧ node.visiting = true) ↔ key ∈ stack.map (·.key)
  /-- No node is on the way twice. -/
  nodup : (stack.map (·.key)).Nodup
  /-- Each frame was put on the way by the edge that the frame below it took last. -/
  linked : stack.IsChain g.Carries
  /-- The edges that a frame has taken were followed. -/
  taken : ∀ frame ∈ stack, ∀ {node : Node}, nodes.get? frame.key = some node →
    ∀ edge ∈ node.dependents.take frame.next, node.Followed nodes (stack.map (·.key)) edge
  /-- All edges of a node that was visited and is not on the way were followed. -/
  left : ∀ {key : String} {node : Node}, nodes.get? key = some node → node.visited = true →
    key ∉ stack.map (·.key) →
    ∀ edge ∈ node.dependents, node.Followed nodes (stack.map (·.key)) edge

variable {g nodes : Graph} {stack : List Frame}

/-! ## How the frames are linked -/

namespace Walk

variable {w w' : Walk} {key : String} {valid : Bool} {error : Option Rejection}

/-- Only the key of the upper frame matters, so the innermost frame may take an edge. -/
theorem linked_advance (h : w.stack.IsChain g.Carries) : w.advance.stack.IsChain g.Carries := by
  cases hstack : w.stack with
  | nil => rwa [advance_of_stack_nil hstack]
  | cons frame below =>
      rw [hstack] at h
      simp only [advance, hstack]
      obtain ⟨hframe, hbelow⟩ := List.isChain_cons.mp h
      exact List.isChain_cons.mpr ⟨hframe, hbelow⟩

/-- A link leads on from the edge that the innermost frame takes. -/
theorem Link.carries (hlink : w.Link key valid error) (htrail : Trail g w.nodes w.stack) :
    ∀ lower ∈ w.advance.stack.head?, g.Carries ⟨key, 0⟩ lower := by
  intro lower hlower
  cases hlink with
  | root hstack _ => simp [advance, hstack] at hlower
  | @edge frame below node edge hstack hnode hedge =>
      obtain ⟨node₀, hnode₀, hsame⟩ := dependents_eq htrail hnode
      have hlast : { frame with next := frame.next + 1 } = lower := by
        simpa [advance, hstack] using hlower
      rw [← hlast]
      exact ⟨Nat.succ_pos _, node₀, hnode₀, edge, hsame ▸ hedge, rfl⟩

theorem Move.linked (hmove : w.Move w') (htrail : Trail g w.nodes w.stack)
    (h : w.stack.IsChain g.Carries) : w'.stack.IsChain g.Carries := by
  cases hmove with
  | pass _ _ _ => exact linked_advance h
  | enter hlink _ _ _ => exact List.isChain_cons.mpr ⟨hlink.carries htrail, linked_advance h⟩
  | accept hstack _ _ _ | reject hstack _ _ _ _ | drop hstack _ =>
      rw [hstack] at h
      exact List.IsChain.of_cons h

end Walk

theorem Graph.Reaches.linked {w : Walk} (hreaches : g.Reaches w) (hg : g.Untouched) :
    w.stack.IsChain g.Carries := by
  induction hreaches with
  | refl => exact .nil
  | tail hrun hmove ih => exact hmove.linked (Graph.Reaches.trail hrun hg) ih

/-! ## Walks on their way -/

/-- The edges that a frame has taken lead to nodes that were left, or that are on the way. -/
theorem Explored.taken_of_mem {left : String → Prop} (h : Explored g left stack) {frame : Frame}
    (hframe : frame ∈ stack) :
    g.Taken (fun key => left key ∨ key ∈ stack.map (·.key)) frame := by
  obtain ⟨above, below, rfl⟩ := List.append_of_mem hframe
  rcases List.eq_nil_or_concat above with rfl | ⟨front, upper, rfl⟩
  · exact (h.top frame rfl).imp fun _ => Or.inl
  · -- the one node that was not left is that of the frame above
    have hupper := (List.isChain_append.mp h.lower).2.2 upper (by simp) frame rfl
    refine hupper.imp fun key hkey => hkey.imp_right ?_
    rintro rfl
    simp

theorem Node.HandsOn.followed {node : Node} {edge : Edge} {way : List String}
    (h : node.HandsOn nodes edge) (hmet : nodes.Left edge.importer ∨ edge.importer ∈ way) :
    node.Followed nodes way edge where
  met := hmet
  told := fun hbad => Or.inl (h (Bool.and_eq_false_iff.mpr hbad.symm))

theorem Graph.Reaches.coherent {w : Walk} (hreaches : g.Reaches w) (hg : g.Untouched) :
    Coherent g w.nodes w.stack := by
  have htrail := hreaches.trail hg
  have hexplored := hreaches.explored hg
  have hjudged := hreaches.judged hg
  constructor
  case shape => exact htrail.shape
  case visiting_iff =>
    intro key
    constructor
    · rintro ⟨node, hnode, hvisiting⟩
      exact (htrail.visiting_iff hnode).mp hvisiting
    · intro hway
      obtain ⟨node, hnode⟩ := Ledger.mem_keys_iff.mp (htrail.known key hway)
      exact ⟨node, hnode, (htrail.visiting_iff hnode).mpr hway⟩
  case nodup => exact htrail.nodup
  case linked => exact hreaches.linked hg
  case taken =>
    intro frame hframe node hnode edge hedge
    obtain ⟨node₀, hnode₀, hsame⟩ := Walk.dependents_eq htrail hnode
    exact (hjudged.taken frame hframe hnode edge hedge).followed
      (hexplored.taken_of_mem hframe node₀ hnode₀ edge (hsame ▸ hedge))
  case left =>
    intro key node hnode hvisited hway edge hedge
    have hvisiting : node.visiting = false := by
      rw [← htrail.visiting_iff hnode, Bool.not_eq_true] at hway
      exact hway
    exact (hjudged.spread hnode hvisited hvisiting edge hedge).followed
      (Or.inl (hexplored.closed ⟨node, hnode, hvisited⟩ (htrail.shape.feeds hnode hedge)))

/-! ## Walks that halt -/

namespace Walk

variable {w : Walk}

/-- Taking an edge whose importer is on the way. -/
theorem coherent_advance (h : Coherent g w.nodes w.stack) {frame : Frame} {below : List Frame}
    {node : Node} {edge : Edge} (hstack : w.stack = frame :: below)
    (hnode : w.nodes.get? frame.key = some node)
    (hedge : node.dependents[frame.next]? = some edge)
    (hway : edge.importer ∈ w.stack.map (·.key)) :
    Coherent g w.nodes w.advance.stack where
  shape := h.shape
  visiting_iff := by rw [keys_advance]; exact h.visiting_iff
  nodup := by rw [keys_advance]; exact h.nodup
  linked := linked_advance h.linked
  taken := by
    rw [keys_advance]
    intro other hother node' hnode' edge' hedge'
    -- only the innermost frame goes on, by the one edge
    have hcases : other = { frame with next := frame.next + 1 } ∨ other ∈ below := by
      simpa [advance, hstack] using hother
    rcases hcases with rfl | hbelow
    · rw [hnode] at hnode'
      cases hnode'
      rcases (Node.mem_take_succ hedge).mp hedge' with hbefore | rfl
      · exact h.taken frame (by simp [hstack]) hnode edge' hbefore
      · exact ⟨Or.inr hway, fun _ => Or.inr hway⟩
    · exact h.taken other (by simp [hstack, hbelow]) hnode' edge' hedge'
  left := by rw [keys_advance]; exact h.left

/-- A walk over an untouched graph halts as coherent as it was. -/
theorem Stop.coherent {halt : Halt} (hstop : w.Stop halt) (hg : g.Untouched)
    (htrail : Trail g w.nodes w.stack) (h : Coherent g w.nodes w.stack) :
    Coherent g halt.walk.nodes halt.walk.stack := by
  obtain ⟨frame, below, node, edge, hstack, hnode, hedge, hway, rfl⟩ := hstop.exists_edge hg htrail
  rw [nodes_haltAt, stack_haltAt, nodes_advance]
  exact coherent_advance h hstack hnode hedge hway

end Walk

/-! ## The course of a sort -/

namespace Catalog

/-- **The invariant of the loop.**  All walks on the course of a sort over the graph of a catalogue
are coherent, and if the sort halts, so is the walk that it leaves behind. -/
theorem coherent_of_course {c : Config} {catalog : Catalog} {ws : List Walk}
    {result : Except Halt Walk} (h : (catalog.buildGraph c).graph.Course ws result) :
    (∀ w ∈ ws, Coherent (catalog.buildGraph c).graph w.nodes w.stack) ∧
      ∀ halt, result = .error halt →
        Coherent (catalog.buildGraph c).graph halt.walk.nodes halt.walk.stack := by
  have hg := untouched_buildGraph c catalog
  refine ⟨fun w hw => (h.reaches hw).coherent hg, ?_⟩
  rintro halt rfl
  obtain ⟨last, hlast, hstop⟩ := Walk.Course.exists_stop h fun _ hkey => hkey
  have hreaches := h.reaches (List.mem_of_getLast? hlast)
  exact hstop.coherent hg (hreaches.trail hg) (hreaches.coherent hg)

/-- The walk halts at `a`, which is on its way and still valid, by a bad link from `c`. -/
theorem coherent_of_course_entangled :
    ∃ ws halt, (entangled.buildGraph .default).graph.Course ws (.error halt) ∧
      halt.walk.stack = [⟨"c", 1⟩, ⟨"b", 1⟩, ⟨"a", 1⟩, ⟨"base", 1⟩] ∧
      halt.walk.verdict? "c" = some false ∧ halt.walk.verdict? "a" = some true ∧
      (∀ w ∈ ws, Coherent (entangled.buildGraph .default).graph w.nodes w.stack) ∧
      Coherent (entangled.buildGraph .default).graph halt.walk.nodes halt.walk.stack := by
  have hsort : ∃ halt, (entangled.buildGraph .default).graph.sort = .error halt ∧
      halt.walk.stack = [⟨"c", 1⟩, ⟨"b", 1⟩, ⟨"a", 1⟩, ⟨"base", 1⟩] ∧
      halt.walk.verdict? "c" = some false ∧ halt.walk.verdict? "a" = some true :=
    ⟨_, rfl, rfl, rfl, rfl⟩
  obtain ⟨halt, hsort, hstack, hc, ha⟩ := hsort
  obtain ⟨ws, hcourse⟩ := (entangled.buildGraph .default).graph.exists_course
  have hown := (hcourse ws (.error halt)).mpr ⟨rfl, hsort.symm⟩
  obtain ⟨hall, hhalt⟩ := coherent_of_course hown
  exact ⟨ws, halt, hown, hstack, hc, ha, hall, hhalt halt rfl⟩

end Catalog

end PluginOrder
