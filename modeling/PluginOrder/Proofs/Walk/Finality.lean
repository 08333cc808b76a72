import PluginOrder.Proofs.Resolution.Acceptance
import PluginOrder.Proofs.Walk.Course
import PluginOrder.Proofs.Walk.Reason

/-!
# Rejection is final

A node is entered with whatever verdict and reason the link hands it, so nothing in `Walk.enter`
keeps an old verdict.  What keeps it is that a node with a negative one is not entered any more
(`Trail.valid_of_needsVisit`): a walk only enters nodes that are valid at the time.  So the reason
of a refused node stands, move by move (`Move.refuses`) and along every run (`refuses_of_run`).

The rejects that were written down have the reasons of their nodes, so writing one down again would
change nothing (`Move.rejects`).  And while a node is on the way it is marked, and marked nodes are
not entered (`Move.standing`).

`Irrevocable` puts this together for the course of a sort.
-/

namespace PluginOrder

namespace Walk

variable {g : Graph} {w w' : Walk} {ws : List Walk} {key : String} {reason : Rejection}

/-- A node has a negative verdict, for a reason. -/
def Refuses (w : Walk) (key : String) (reason : Rejection) : Prop :=
  ∃ node, w.nodes.get? key = some node ∧ node.valid = false ∧ node.error = some reason

/-- The verdict on the node under a key, and its reason. -/
def standing? (w : Walk) (key : String) : Option (Bool × Option Rejection) :=
  (w.nodes.get? key).map fun node => (node.valid, node.error)

/-! ## What a move keeps -/

theorem Refuses.pop (h : w.Refuses key reason) (other : String) (below : List Frame) :
    (w.pop other below).Refuses key reason := by
  obtain ⟨node, hnode, hinvalid, herror⟩ := h
  by_cases hkey : key = other
  · subst hkey
    exact ⟨node.left, by rw [Walk.pop, Ledger.get?_modify_self, hnode]; rfl, hinvalid, herror⟩
  · exact ⟨node, by rw [Walk.pop, Ledger.get?_modify, if_neg hkey, hnode], hinvalid, herror⟩

/-- **A move changes no negative verdict, and not its reason either.** -/
theorem Move.refuses (hmove : w.Move w') (htrail : Trail g w.nodes w.stack)
    (h : w.Refuses key reason) : w'.Refuses key reason := by
  cases hmove with
  | pass _ _ _ =>
      obtain ⟨node, hnode, hrefused⟩ := h
      exact ⟨node, by rw [nodes_advance, hnode], hrefused⟩
  | @enter other valid error target _ htarget hneeds hvisiting =>
      obtain ⟨node, hnode, hinvalid, herror⟩ := h
      -- the node that is entered is valid until then
      have hne : key ≠ other := by
        rintro rfl
        rw [htarget] at hnode
        cases hnode
        rw [htrail.valid_of_needsVisit htarget hneeds hvisiting] at hinvalid
        cases hinvalid
      have hsame : (w.advance.push other valid error).nodes.get? key = some node := by
        rw [push, Ledger.get?_modify, if_neg hne, nodes_advance, hnode]
      exact ⟨node, hsame, hinvalid, herror⟩
  | @accept frame below _ _ _ _ _ | @reject frame below _ _ _ _ _ _ _ => exact h.pop frame.key below
  | drop _ _ => exact h

/-- **A move changes no reason that was written down.** -/
theorem Move.rejects (hmove : w.Move w') (hg : g.Untouched) (htrail : Trail g w.nodes w.stack)
    (hreasoned : Reasoned g w.nodes w.rejects) (h : w.rejects.get? key = some reason) :
    w'.rejects.get? key = some reason := by
  cases hmove with
  | pass _ _ _ => rwa [rejects_advance]
  | enter _ _ _ _ => rwa [push, rejects_advance]
  | accept _ _ _ _ => exact h
  | @reject frame below node other hstack hnode _ _ hother =>
      show (w.rejects.insert node.id other).get? key = some reason
      rw [htrail.id_eq hg hnode, Ledger.get?_insert]
      split
      · rename_i hkey
        -- the reason that is written down is that of the node, and so is the one that stands there
        obtain ⟨old, hold, _, herror⟩ := hreasoned.error_eq h
        rw [← hkey, hnode] at hold
        cases hold
        rw [hother] at herror
        exact herror
      · exact h
  | drop _ _ => exact h

/-- **A move changes neither the verdict nor the reason of a node that stays on the way.** -/
theorem Move.standing (hmove : w.Move w') (htrail : Trail g w.nodes w.stack)
    (hbefore : key ∈ w.stack.map (·.key)) (hafter : key ∈ w'.stack.map (·.key)) :
    w'.standing? key = w.standing? key := by
  -- the frame that is taken away is not that of a node still on the way
  have hpop : ∀ {frame : Frame} {below : List Frame}, w.stack = frame :: below →
      key ∈ below.map (·.key) → key ≠ frame.key := by
    intro frame below hstack hmem heq
    have hnodup := htrail.nodup
    rw [hstack, List.map_cons, List.nodup_cons] at hnodup
    exact hnodup.1 (heq ▸ hmem)
  cases hmove with
  | pass _ _ _ => rw [standing?, standing?, nodes_advance]
  | @enter other valid error target _ htarget _ hvisiting =>
      have hne : key ≠ other := by
        rintro rfl
        exact htrail.not_mem_of_visiting htarget hvisiting hbefore
      rw [standing?, standing?, push, Ledger.get?_modify, if_neg hne, nodes_advance]
  | accept hstack _ _ _ =>
      rw [standing?, standing?, accepting, pop, Ledger.get?_modify, if_neg (hpop hstack hafter)]
  | reject hstack _ _ _ _ =>
      rw [standing?, standing?, rejecting, report, pop, Ledger.get?_modify,
        if_neg (hpop hstack hafter)]
  | drop _ _ => rfl

/-- A walk that halts leaves its nodes and rejects as they are. -/
theorem Stop.unchanged {halt : Halt} (hstop : w.Stop halt) (htrail : Trail g w.nodes w.stack) :
    halt.walk.nodes = w.nodes ∧ halt.walk.rejects = w.rejects := by
  cases hstop with
  | unknown _ _ => exact ⟨nodes_advance w, rejects_advance w⟩
  | again _ _ _ _ =>
      rw [nodes_haltAt, rejects_haltAt]
      exact ⟨nodes_advance w, rejects_advance w⟩
  | unjustified _ hnode _ hvalid hreason =>
      exact absurd hreason (htrail.error_ne_none hnode hvalid)

/-! ## What a run keeps -/

section Run

variable (hg : g.Untouched) (hreaches : g.Reaches w) (hrun : Relation.ReflTransGen Move w w')

include hg hreaches hrun

theorem refuses_of_run (h : w.Refuses key reason) : w'.Refuses key reason := by
  induction hrun with
  | refl => exact h
  | tail hrun hmove ih => exact hmove.refuses (Graph.Reaches.trail (hreaches.trans hrun) hg) ih

theorem rejects_of_run (h : w.rejects.get? key = some reason) :
    w'.rejects.get? key = some reason := by
  induction hrun with
  | refl => exact h
  | tail hrun hmove ih =>
      have hlater := hreaches.trans hrun
      exact hmove.rejects hg (Graph.Reaches.trail hlater hg) (Graph.Reaches.reasoned hlater hg) ih

/-- A verdict that is positive now was positive before. -/
theorem verdict_of_run (h : w'.verdict? key = some true) (hbefore : w.verdict? key ≠ none) :
    w.verdict? key = some true := by
  obtain ⟨node, hnode, hvalid⟩ := Option.map_eq_some_iff.mp h
  cases hold : w.nodes.get? key with
  | none => exact absurd (by rw [verdict?, hold]; rfl) hbefore
  | some old =>
      rw [verdict?, hold, Option.map_some]
      cases hverdict : old.valid with
      | true => rfl
      | false =>
          -- a negative verdict has a reason, and is for good
          obtain ⟨reason, herror⟩ : ∃ reason, old.error = some reason :=
            Option.ne_none_iff_exists'.mp ((hreaches.trail hg).error_ne_none hold hverdict)
          obtain ⟨later, hlater, hinvalid, _⟩ :=
            refuses_of_run hg hreaches hrun ⟨old, hold, hverdict, herror⟩
          rw [hnode] at hlater
          cases hlater
          rw [hvalid] at hinvalid
          cases hinvalid

end Run

/-! ## The course of a sort -/

/-- Verdicts of which no positive one follows a negative one are positive at first and negative from
some time on. -/
theorem exists_replicate {verdicts : List Bool}
    (h : verdicts.Pairwise fun earlier later => later = true → earlier = true) :
    ∃ m n, verdicts = List.replicate m true ++ List.replicate n false := by
  induction verdicts with
  | nil => exact ⟨0, 0, rfl⟩
  | cons first rest ih =>
      obtain ⟨hfirst, hrest⟩ := List.pairwise_cons.mp h
      cases first with
      | true =>
          obtain ⟨m, n, rfl⟩ := ih hrest
          exact ⟨m + 1, n, rfl⟩
      | false =>
          -- nothing positive comes after the first negative verdict
          have hnegative : ∀ verdict ∈ rest, verdict = false := by
            intro verdict hmem
            cases verdict with
            | false => rfl
            | true => exact (hfirst true hmem rfl).symm
          refine ⟨0, rest.length + 1, ?_⟩
          rw [List.replicate_succ, ← List.eq_replicate_of_mem hnegative]
          rfl

/-- Along a row of walks nothing is taken back. -/
structure Irrevocable (ws : List Walk) : Prop where
  /-- The verdict on a node is positive, until it is negative for good.  This is so from the start,
  and therefore from the time at which the node is first left. -/
  verdicts : ∀ key, ∃ m n,
    ws.filterMap (·.verdict? key) = List.replicate m true ++ List.replicate n false
  /-- A reject that is written down stays, with its reason. -/
  rejects : ws.Pairwise fun w w' => ∀ key reason,
    w.rejects.get? key = some reason → w'.rejects.get? key = some reason
  /-- The reason of a reject is that of its node. -/
  reasons : ∀ w ∈ ws, ∀ key reason, w.rejects.get? key = some reason → w.Refuses key reason
  /-- While a node is on the way, its verdict and its reason stay as they are. -/
  standing : ws.IsChain fun w w' => ∀ key ∈ w.stack.map (·.key), key ∈ w'.stack.map (·.key) →
    w'.standing? key = w.standing? key

end Walk

theorem Graph.Course.irrevocable {g : Graph} {ws : List Walk} {result : Except Halt Walk}
    (h : g.Course ws result) (hg : g.Untouched) : Walk.Irrevocable ws where
  verdicts := by
    intro key
    refine Walk.exists_replicate (List.pairwise_filterMap.mpr ?_)
    refine h.pairwise.imp_of_mem fun {w w'} hw _ hrun verdict hverdict later hlater hpositive => ?_
    rw [hpositive] at hlater
    have hbefore := Walk.verdict_of_run hg (h.reaches hw) hrun hlater (by rw [hverdict]; nofun)
    rw [hverdict] at hbefore
    exact Option.some.inj hbefore
  rejects := h.pairwise.imp_of_mem fun hw _ hrun _ _ hreject =>
    Walk.rejects_of_run hg (h.reaches hw) hrun hreject
  reasons := fun _ hw _ _ hreject => ((h.reaches hw).reasoned hg).error_eq hreject
  standing := by
    refine List.isChain_iff_getElem.mpr fun i hi key hbefore hafter => ?_
    have hmove := List.isChain_iff_getElem.mp h.isChain i hi
    exact hmove.standing ((h.reaches (List.getElem_mem _)).trail hg) hbefore hafter

namespace Catalog

/-- **Rejection is final.**  On the course of a sort over the graph of a catalogue a verdict only
ever turns from positive to negative, a reject stays with its reason, which is that of its node, and
nothing changes of a node while it is on the way.  If the sort halts, it leaves all this as it
is. -/
theorem irrevocable_of_course {c : Config} {catalog : Catalog} {ws : List Walk}
    {result : Except Halt Walk} (h : (catalog.buildGraph c).graph.Course ws result) :
    Walk.Irrevocable ws ∧ ∀ halt, result = .error halt → ∃ last, ws.getLast? = some last ∧
      halt.walk.nodes = last.nodes ∧ halt.walk.rejects = last.rejects := by
  have hg := untouched_buildGraph c catalog
  refine ⟨h.irrevocable hg, ?_⟩
  rintro halt rfl
  obtain ⟨last, hlast, hstop⟩ := Walk.Course.exists_stop h fun _ hkey => hkey
  have hreaches := h.reaches (List.mem_of_getLast? hlast)
  exact ⟨last, hlast, hstop.unchanged (hreaches.trail hg)⟩

/-- Here `b`, `c` and `f` are accepted first and rejected later. -/
theorem irrevocable_of_course_downgrading :
    ∃ ws w, (downgrading.buildGraph .default).graph.Course ws (.ok w) ∧ Walk.Irrevocable ws ∧
      w.finished = ["e", "f", "a", "d", "b", "c"] ∧ w.rejects.keys = ["c", "b", "f"] := by
  have hsort : ∃ w, (downgrading.buildGraph .default).graph.sort = .ok w ∧
      w.finished = ["e", "f", "a", "d", "b", "c"] ∧ w.rejects.keys = ["c", "b", "f"] :=
    ⟨_, rfl, rfl, rfl⟩
  obtain ⟨w, hsort, hfinished, hrejects⟩ := hsort
  obtain ⟨ws, hcourse⟩ := (downgrading.buildGraph .default).graph.exists_course
  have hown := (hcourse ws (.ok w)).mpr ⟨rfl, hsort.symm⟩
  exact ⟨ws, w, hown, (irrevocable_of_course hown).1, hfinished, hrejects⟩

end Catalog

end PluginOrder
