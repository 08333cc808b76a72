import PluginOrder.Proofs.Graph.Basic
import PluginOrder.Proofs.Walk.Termination
import Mathlib.Algebra.Order.BigOperators.Group.List
import Mathlib.Algebra.Order.Group.Nat
import Mathlib.Data.List.TakeWhile

/-!
# A walk as a recursion

The plainest account of a walk has no stack: to visit a node is to mark it, to visit whatever its
edges lead to, one after the other, and to take the mark away again.  `Tour.visit` is this
recursion.  Its first argument bounds how deeply calls may be nested, and a recursion that needs
more ends as `tooDeep`.

`tour_eq_sort` says that a walk with a stack does the same, on every graph: whatever the keys,
identifiers, edges and marks, both leave the same order, rejects and nodes behind, or halt at the
same fault with the same nodes.  A call that goes on to others marks a node that had no mark, so
calls are never nested more deeply than the graph has nodes, but for a last one that marks nothing
(`visit_ne_tooDeep`).

The proof is by induction on the depth, for all stacks at once (`visit_leads`): entering a node on
top of a stack, a walk goes on with that stack from where the call for the node has ended.  For the
frame of the node in between, the edges that it has not taken yet are those that the call has still
to follow (`follow_leads`).
-/

namespace PluginOrder

/-- What the calls of a recursion leave to each other. -/
structure Tour where
  nodes : Graph
  /-- The identifiers left as valid, the latest first. -/
  order : List String
  rejects : Ledger Rejection
  journal : List Event

/-- How a call ends. -/
inductive Ending where
  | done (t : Tour)
  /-- The whole recursion is given up. -/
  | halted (fault : WalkFault) (t : Tour)
  /-- Calls would be nested more deeply than they may be. -/
  | tooDeep

/-- Goes on if a call is done. -/
def Ending.andThen : Ending → (Tour → Ending) → Ending
  | .done t, next => next t
  | .halted fault t, _ => .halted fault t
  | .tooDeep, _ => .tooDeep

/-- What can be called for the node under a key, with the verdict and the reason of a link. -/
abbrev Call := Tour → String → Bool → Option Rejection → Ending

namespace Tour

/-- The recursion before its first call. -/
def start (g : Graph) : Tour := ⟨g, [], ∅, []⟩

/-- Reports an event. -/
def report (t : Tour) (event : Event) : Tour := { t with journal := t.journal ++ [event] }

/-- The node under a key that has one. -/
def node (t : Tour) (key : String) : Node := (t.nodes.get? key).getD (.fresh key)

/-- Marks the node under a key and stores what its visit was called with. -/
def enter (t : Tour) (key : String) (valid : Bool) (error : Option Rejection) : Tour :=
  { t with nodes := t.nodes.modify key fun node => node.entered valid error }

/-- Takes the mark of the node under a key away. -/
def unmark (t : Tour) (key : String) : Tour := { t with nodes := t.nodes.modify key Node.left }

/-- Halts at a marked node, given the identifiers of the open calls, the outermost first. -/
def haltAt (t : Tour) (way : List String) (id : String) : Ending :=
  if id ∈ way then
    let cycle := way.dropWhile (· != id) ++ [id]
    .halted (.cycle cycle) (t.report (.cycleFound cycle))
  else .halted (.strayMark id) t

/-- Calls for the node that each edge leads to.  What is handed on is read of the node under `key`
when its turn comes. -/
def follow (call : Call) (key : String) : List Edge → Tour → Ending
  | [], t => .done t
  | edge :: rest, t =>
    (call t edge.importer ((t.node key).valid && edge.valid) (linkError (t.node key) edge)).andThen
      (follow call key rest)

/-- Ends the visit of the node under a key and writes its verdict down. -/
def leave (t : Tour) (key : String) : Ending :=
  if (t.node key).valid then
    .done { t.unmark key with order := (t.node key).id :: t.order }
  else
    match (t.node key).error with
    | none => .halted .unjustified (t.unmark key)
    | some reason =>
      .done { (t.unmark key).report
          (.nodeRejected (t.node key).id reason.status reason.plugin) with
        rejects := t.rejects.insert (t.node key).id reason }

/-- Visits the node under a key, with calls nested at most as deeply as the first argument says.
`way` holds the identifiers of the open calls. -/
def visit : (depth : Nat) → (way : List String) → Call
  | 0, _, _, _, _, _ => .tooDeep
  | depth + 1, way, t, key, valid, error =>
    match t.nodes.get? key with
    | none => .halted (.unknownImporter key) t
    | some node =>
      if !node.needsVisit valid then .done t
      else if node.visiting then t.haltAt way node.id
      else
        (follow (visit depth (way ++ [node.id])) key node.dependents
          (t.enter key valid error)).andThen (·.leave key)

/-- Visits roots one after the other. -/
def visitAll (depth : Nat) : List String → Tour → Ending
  | [], t => .done t
  | key :: rest, t => (visit depth [] t key true none).andThen (visitAll depth rest)

end Tour

/-- Visits every node of a graph as a root, in the order of the graph. -/
def Graph.tour (depth : Nat) (g : Graph) : Ending := Tour.visitAll depth g.keys (.start g)

/-- What a walk has in common with a recursion: all but its stack. -/
def Walk.tour (w : Walk) : Tour := ⟨w.nodes, w.finished, w.rejects, w.journal⟩

/-- The result of a walk as an ending. -/
def Ending.ofResult : Except Halt Walk → Ending
  | .ok w => .done w.tour
  | .error halt => .halted halt.fault halt.walk.tour

namespace Ending

variable {e : Ending} {next : Tour → Ending} {t : Tour}

theorem andThen_eq_done : e.andThen next = .done t ↔ ∃ t', e = .done t' ∧ next t' = .done t := by
  cases e <;> simp [andThen]

theorem andThen_ne_tooDeep (h : e ≠ .tooDeep) (hnext : ∀ t, e = .done t → next t ≠ .tooDeep) :
    e.andThen next ≠ .tooDeep := by
  cases e with
  | done t => exact hnext t rfl
  | halted fault t => simp [andThen]
  | tooDeep => exact absurd rfl h

end Ending

namespace Tour

/-! ## What a call keeps -/

/-- The number of nodes without a mark. -/
def unmarked (nodes : Graph) : Nat :=
  (nodes.values.map fun node => if node.visiting then 0 else 1).foldr (· + ·) 0

/-- A recursion has gone on without changing the shape of the graph, and without more nodes lacking
a mark than before. -/
structure Keeps (t t' : Tour) : Prop where
  shape : t.nodes.SameShape t'.nodes
  unmarked_le : unmarked t'.nodes ≤ unmarked t.nodes

/-- Calls that are done keep the shape of the graph and return the marks they have used. -/
def Keeping (call : Call) : Prop :=
  ∀ {t t' : Tour} {key : String} {valid : Bool} {error : Option Rejection},
    call t key valid error = .done t' → Keeps t t'

variable {t t' : Tour} {key : String} {node : Node} {valid : Bool} {error : Option Rejection}
  {call : Call} {depth : Nat} {way : List String} {edges : List Edge}

theorem Keeps.refl (t : Tour) : Keeps t t := ⟨.refl _, Nat.le_refl _⟩

theorem Keeps.trans {t'' : Tour} (h : Keeps t t') (h' : Keeps t' t'') : Keeps t t'' :=
  ⟨h.shape.trans h'.shape, Nat.le_trans h'.unmarked_le h.unmarked_le⟩

theorem node_eq (hnode : t.nodes.get? key = some node) : t.node key = node := by
  rw [Tour.node, hnode, Option.getD_some]

theorem get?_enter (hnode : t.nodes.get? key = some node) (valid : Bool)
    (error : Option Rejection) :
    (t.enter key valid error).nodes.get? key = some (node.entered valid error) := by
  rw [enter, Ledger.get?_modify_self, hnode, Option.map_some]

theorem sameShape_enter : t.nodes.SameShape (t.enter key valid error).nodes :=
  (Graph.SameShape.refl t.nodes).modify key (fun _ => rfl) fun _ => rfl

theorem unmarked_enter (hnode : t.nodes.get? key = some node) (hvisiting : node.visiting = false)
    (valid : Bool) (error : Option Rejection) :
    unmarked (t.enter key valid error).nodes + 1 = unmarked t.nodes := by
  have hsum := Ledger.sum_values_modify (fun node => node.entered valid error)
    (fun node => if node.visiting then 0 else 1) hnode
  simpa [unmarked, enter, Node.entered, hvisiting] using hsum

theorem unmarked_unmark_le (hnode : t.nodes.get? key = some node) :
    unmarked (t.unmark key).nodes ≤ unmarked t.nodes + 1 := by
  have hsum := Ledger.sum_values_modify Node.left (fun node => if node.visiting then 0 else 1) hnode
  have hone : (if node.left.visiting then 0 else 1) = 1 := rfl
  simp only [hone] at hsum
  simp only [unmarked, unmark]
  omega

theorem nodes_of_leave (h : t.leave key = .done t') : t'.nodes = (t.unmark key).nodes := by
  unfold leave at h
  split at h
  · cases h; rfl
  · split at h
    · cases h
    · cases h; rfl

theorem follow_keeps (hcall : Keeping call) (h : follow call key edges t = .done t') :
    Keeps t t' := by
  induction edges generalizing t with
  | nil => cases h; exact .refl _
  | cons edge rest ih =>
      obtain ⟨next, hnext, hrest⟩ := Ending.andThen_eq_done.mp h
      exact (hcall hnext).trans (ih hrest)

theorem visit_keeps : Keeping (visit depth way) := by
  induction depth generalizing way with
  | zero => intro _ _ _ _ _ h; cases h
  | succ depth ih =>
      intro t t' key valid error h
      unfold visit at h
      split at h
      · cases h
      · rename_i node hnode
        split at h
        · cases h; exact .refl _
        · split at h
          · unfold haltAt at h
            split at h <;> cases h
          · rename_i hvisiting
            obtain ⟨last, hfollow, hleave⟩ := Ending.andThen_eq_done.mp h
            have hkeeps := follow_keeps ih hfollow
            have hshape : t.nodes.SameShape last.nodes := sameShape_enter.trans hkeeps.shape
            obtain ⟨after, hafter, _⟩ := hshape.get? hnode
            -- the mark that the call has used comes back with its end
            have henter := unmarked_enter hnode (by simpa using hvisiting) valid error
            have hunmark := unmarked_unmark_le hafter
            have hle := hkeeps.unmarked_le
            rw [← nodes_of_leave hleave] at hunmark
            refine ⟨?_, by omega⟩
            rw [nodes_of_leave hleave]
            exact hshape.modify key (fun _ => rfl) fun _ => rfl

/-! ## How deep a recursion is -/

theorem leave_ne_tooDeep : t.leave key ≠ .tooDeep := by
  unfold leave
  split
  · simp
  · split <;> simp

theorem follow_ne_tooDeep (hkeeps : Keeping call)
    (hcall : ∀ {t : Tour} {key : String} {valid : Bool} {error : Option Rejection},
      unmarked t.nodes < depth → call t key valid error ≠ .tooDeep)
    (hdepth : unmarked t.nodes < depth) : follow call key edges t ≠ .tooDeep := by
  induction edges generalizing t with
  | nil => simp [follow]
  | cons edge rest ih =>
      refine Ending.andThen_ne_tooDeep (hcall hdepth) fun next hnext => ih ?_
      exact Nat.lt_of_le_of_lt (hkeeps hnext).unmarked_le hdepth

/-- A recursion is never deeper than there are nodes without a mark, and one call. -/
theorem visit_ne_tooDeep (hdepth : unmarked t.nodes < depth) :
    visit depth way t key valid error ≠ .tooDeep := by
  induction depth generalizing way t key valid error with
  | zero => exact absurd hdepth (Nat.not_lt_zero _)
  | succ depth ih =>
      unfold visit
      split
      · simp
      · rename_i node hnode
        split
        · simp
        · split
          · unfold haltAt
            split <;> simp
          · rename_i hvisiting
            -- every call marks a node, so fewer are left without a mark
            have henter := unmarked_enter hnode (by simpa using hvisiting) valid error
            refine Ending.andThen_ne_tooDeep ?_ fun _ _ => leave_ne_tooDeep
            exact follow_ne_tooDeep visit_keeps ih (by omega)

/-! ## A walk does as the recursion does -/

/-- The walk that has come as far as a recursion, with a stack. -/
def on (t : Tour) (stack : List Frame) : Walk := ⟨t.nodes, stack, t.order, t.rejects, t.journal⟩

end Tour

/-- A result is what a walk comes to that goes on with a stack from where a call has ended; a call
that has halted leaves nothing to go on with. -/
def Ending.Leads (stack : List Frame) (result : Except Halt Walk) : Ending → Prop
  | .done t => result = (t.on stack).drain
  | .halted fault t => ∃ stack', result = .error ⟨fault, t.on stack'⟩
  | .tooDeep => True

theorem Ending.Leads.andThen {stack stack' : List Frame} {result : Except Halt Walk} {e : Ending}
    {next : Tour → Ending} (h : e.Leads stack result)
    (hnext : ∀ t, e = .done t → (next t).Leads stack' (t.on stack).drain) :
    (e.andThen next).Leads stack' result := by
  cases e with
  | done t =>
      have hresult : result = (t.on stack).drain := h
      rw [hresult]
      exact hnext t rfl
  | halted fault t => exact h
  | tooDeep => exact trivial

namespace Tour

/-- Calls under a way lead the walks whose stacks have that way. -/
def Leading (call : Call) (way : List String) : Prop :=
  ∀ {t : Tour} {key : String} {valid : Bool} {error : Option Rejection} {stack : List Frame},
    (t.on stack).way = way →
      (call t key valid error).Leads stack (((t.on stack).enter key valid error).bind Walk.drain)

variable {t t' : Tour} {key : String} {node : Node} {valid : Bool} {error : Option Rejection}
  {call : Call} {depth : Nat} {way : List String} {edges : List Edge} {stack : List Frame}

section Way

theorem idOf_congr (hshape : t.nodes.SameShape t'.nodes) (key : String) :
    (t'.on stack).idOf key = (t.on stack).idOf key := by
  simp only [Walk.idOf, on]
  cases hnode : t.nodes.get? key with
  | none =>
      have hnone : t'.nodes.get? key = none := by
        rw [Ledger.get?_eq_none_iff, hshape.mem_keys, ← Ledger.get?_eq_none_iff, hnode]
      rw [hnone]
  | some node =>
      obtain ⟨node', hnode', hid, _⟩ := hshape.get? hnode
      rw [hnode']
      exact hid

theorem way_congr (hshape : t.nodes.SameShape t'.nodes) :
    (t'.on stack).way = (t.on stack).way := by
  unfold Walk.way
  congr 1
  exact List.map_congr_left fun frame _ => idOf_congr hshape frame.key

theorem way_cons (hnode : t.nodes.get? key = some node) (n : Nat) :
    (t.on (⟨key, n⟩ :: stack)).way = (t.on stack).way ++ [node.id] := by
  simp [Walk.way, Walk.idOf, on, hnode]

end Way

theorem isEmpty_dropWhile {id : String} :
    (way.dropWhile (· != id)).isEmpty = true ↔ id ∉ way := by
  rw [List.isEmpty_iff, List.dropWhile_eq_nil_iff]
  simp only [bne_iff_ne]
  exact ⟨fun hall hmem => hall id hmem rfl, fun hmem other hother heq => hmem (heq ▸ hother)⟩

theorem haltAt_leads (hway : (t.on stack).way = way) (id : String) :
    (t.haltAt way id).Leads stack (.error ((t.on stack).haltAt id)) := by
  unfold haltAt Walk.haltAt
  rw [hway]
  by_cases hmem : id ∈ way
  · rw [if_pos hmem, if_neg (isEmpty_dropWhile.not.mpr (not_not.mpr hmem))]
    exact ⟨stack, rfl⟩
  · rw [if_neg hmem, if_pos (isEmpty_dropWhile.mpr hmem)]
    exact ⟨stack, rfl⟩

theorem leave_leads (hnode : t.nodes.get? key = some node) {n : Nat}
    (hdone : node.dependents[n]? = none) :
    (t.leave key).Leads stack (t.on (⟨key, n⟩ :: stack)).drain := by
  have hstep : (t.on (⟨key, n⟩ :: stack)).step = Walk.leave (t.on stack) key node := by
    simp only [Walk.step, on, hnode, hdone]
  rw [Walk.drain_of_stack_ne_nil (by simp [on]), hstep]
  unfold leave Walk.leave
  rw [node_eq hnode]
  cases node.valid with
  | true => rfl
  | false =>
      cases node.error with
      | none => exact ⟨stack, rfl⟩
      | some reason => rfl

/-- The edges that a frame has not taken yet are those that its call has still to follow. -/
theorem follow_leads (hkeeps : Keeping call) (hcall : Leading call way)
    (hnode : t.nodes.get? key = some node) {n : Nat} (hedges : node.dependents.drop n = edges)
    (hway : (t.on stack).way ++ [node.id] = way) :
    (follow call key edges t).Leads (⟨key, n + edges.length⟩ :: stack)
      (t.on (⟨key, n⟩ :: stack)).drain := by
  induction edges generalizing t node n with
  | nil => exact rfl
  | cons edge rest ih =>
      have hedge : node.dependents[n]? = some edge := by
        rw [← List.head?_drop, hedges, List.head?_cons]
      have hstep : (t.on (⟨key, n⟩ :: stack)).step =
          (t.on (⟨key, n + 1⟩ :: stack)).enter edge.importer (node.valid && edge.valid)
            (linkError node edge) := by
        simp only [Walk.step, on, hnode, hedge]
      rw [Walk.drain_of_stack_ne_nil (by simp [on]), hstep, follow, node_eq hnode]
      refine (hcall (way_cons hnode (n + 1) |>.trans hway)).andThen fun t' ht' => ?_
      -- the call has changed neither the edges of this node nor any identifier
      have hshape := (hkeeps ht').shape
      obtain ⟨node', hnode', hid, hsame⟩ := hshape.get? hnode
      have hrest : node'.dependents.drop (n + 1) = rest := by
        rw [hsame, ← List.tail_drop, hedges, List.tail_cons]
      have hlength : n + (edge :: rest).length = n + 1 + rest.length := by
        rw [List.length_cons]
        omega
      rw [hlength]
      exact ih hnode' hrest (by rw [way_congr hshape, hid, hway])

/-- **A call leads a walk.**  Entering a node on top of a stack, a walk goes on with that stack from
where the call for the node has ended. -/
theorem visit_leads : Leading (visit depth way) way := by
  induction depth generalizing way with
  | zero => exact fun _ => trivial
  | succ depth ih =>
      intro t key valid error stack hway
      unfold visit
      cases hnode : t.nodes.get? key with
      | none =>
          simp only [Walk.enter, on, hnode]
          exact ⟨stack, rfl⟩
      | some node =>
          cases hneeds : node.needsVisit valid with
          | false =>
              simp only [Walk.enter, on, hnode, hneeds]
              rfl
          | true =>
              cases hvisiting : node.visiting with
              | true =>
                  have henter : (t.on stack).enter key valid error =
                      .error ((t.on stack).haltAt node.id) := by
                    simp [Walk.enter, on, hnode, hneeds, hvisiting]
                  rw [henter]
                  simp only [hneeds, hvisiting, Bool.not_true, Bool.false_eq_true, if_false,
                    if_true]
                  exact haltAt_leads hway node.id
              | false =>
                  have henter : (t.on stack).enter key valid error =
                      .ok ((t.enter key valid error).on (⟨key, 0⟩ :: stack)) := by
                    simp [Walk.enter, on, hnode, hneeds, hvisiting, enter, Node.entered]
                  rw [henter]
                  simp only [hneeds, hvisiting, Bool.not_true, Bool.false_eq_true, if_false]
                  have hentered := get?_enter hnode valid error
                  have hway' : ((t.enter key valid error).on stack).way = way := by
                    rw [way_congr sameShape_enter, hway]
                  -- both follow the edges with the node on top of the stack, and then leave it
                  have hfollow := follow_leads visit_keeps ih hentered (n := 0) rfl
                    (congrArg (· ++ [node.id]) hway')
                  refine hfollow.andThen fun t' ht' => ?_
                  obtain ⟨node', hnode', _, hsame⟩ :=
                    (follow_keeps visit_keeps ht').shape.get? hentered
                  refine leave_leads hnode' (List.getElem?_eq_none ?_)
                  rw [hsame, Nat.zero_add, List.drop_zero]

/-- Roots are visited as calls visit them. -/
theorem visitAll_eq_ofResult {keys : List String} (hdepth : unmarked t.nodes < depth) :
    visitAll depth keys t = .ofResult (Walk.visitAll keys (t.on [])) := by
  induction keys generalizing t with
  | nil => rfl
  | cons key rest ih =>
      -- a root is entered on an empty stack
      have hlead : (visit depth [] t key true none).Leads [] ((t.on []).visit key) := by
        have hvisit : (t.on []).visit key = ((t.on []).enter key true none).bind Walk.drain := by
          unfold Walk.visit
          cases (t.on []).enter key true none <;> rfl
        rw [hvisit]
        exact visit_leads rfl
      unfold visitAll Walk.visitAll
      cases hcall : visit depth [] t key true none with
      | done t' =>
          rw [hcall] at hlead
          have hend : (t.on []).visit key = .ok (t'.on []) :=
            hlead.trans (Walk.drain_of_stack_nil rfl)
          rw [hend]
          exact ih (Nat.lt_of_le_of_lt (visit_keeps hcall).unmarked_le hdepth)
      | halted fault t' =>
          rw [hcall] at hlead
          obtain ⟨stack, hend⟩ := hlead
          rw [hend]
          rfl
      | tooDeep => exact absurd hcall (visit_ne_tooDeep hdepth)

end Tour

namespace Graph

theorem unmarked_le_size (g : Graph) : Tour.unmarked g ≤ g.size := by
  have hle := List.sum_le_card_nsmul
    (g.values.map fun node => if node.visiting then 0 else 1) 1 (by
      intro n hn
      obtain ⟨node, _, rfl⟩ := List.mem_map.mp hn
      split <;> simp)
  simpa [Tour.unmarked, List.sum, Ledger.values, Ledger.size] using hle

/-- **A walk with a stack does what the recursion does.**  On every graph, with room for one call
more than there are nodes, the recursion ends as the sort: with the same order, rejects, nodes and
journal, or halted at the same fault with the same. -/
theorem tour_eq_sort (g : Graph) {depth : Nat} (hdepth : g.size < depth) :
    g.tour depth = .ofResult g.sort :=
  Tour.visitAll_eq_ofResult (Nat.lt_of_le_of_lt g.unmarked_le_size hdepth)

/-- A graph in which two nodes share an identifier and one was visited before.  The bad edge from
`b` to `c` comes after the good one from `a`, so `c` and what depends on it are visited twice. -/
def crossed : Graph where
  entries := [
    ("a", ⟨"A", [⟨"A", "s", "c", "s", .text "*", true, none⟩,
      ⟨"A", "s", "b", "s", .text "*", true, none⟩], false, false, true, none⟩),
    ("b", ⟨"B", [⟨"B", "t", "c", "t", .text "*", false,
      some ⟨.requiredServiceNotFound, "B", none, .null⟩⟩], false, false, true, none⟩),
    ("c", ⟨"C", [⟨"C", "s", "d", "s", .text "*", true, none⟩], false, false, true, none⟩),
    ("d", ⟨"A", [], true, false, true, none⟩)]
  nodup_keys := by decide

theorem tour_eq_sort_crossed :
    crossed.size < 5 ∧ crossed.tour 5 = .ofResult crossed.sort ∧
      ∃ w, crossed.sort = .ok w ∧ w.finished = ["A", "B", "C"] ∧ w.rejects.keys = ["A", "C"] :=
  ⟨by decide, tour_eq_sort crossed (by decide), _, rfl, rfl, rfl⟩

end Graph

end PluginOrder
