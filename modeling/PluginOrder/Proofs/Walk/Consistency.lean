import PluginOrder.Proofs.Walk.Finality

/-!
# The result of a sort and the marks on its nodes

A sort tells its outcome three times over: by the order of what it left as valid, by its rejects,
and by the verdicts and reasons that it leaves on the nodes.  They are written at different times
of a walk in which a node can be left twice, and `Consistent` says that they agree in the end.

That rejects and verdicts agree is known, and so is the reason of a node that is rejected.  A node
that is valid has none, since a good link hands none on and only good links leave a node valid
(`Move.unblamed`).

The order is the one place where nothing is ever taken out.  What stands there and is rejected has
been accepted and downgraded, and the two are neighbours on the course: a move by which a node of
the order comes to have a negative verdict enters that very node for the second time
(`Move.downgrades`), and a course on which the verdict has changed makes this move somewhere
(`Course.downgraded`).
-/

namespace PluginOrder

/-! ## What a walk says of a node of its order -/

namespace Walk

/-- The node under a key was left as valid: it stands in the order and not among the rejects. -/
def Accepts (w : Walk) (key : String) : Prop :=
  (∃ node, w.nodes.get? key = some node ∧ node.visited = true ∧ node.visiting = false ∧
      node.valid = true) ∧ key ∈ w.finished ∧ key ∉ w.rejects.keys

/-- The node under a key is on the way for the second time, with a negative verdict. -/
def Downgrades (w : Walk) (key : String) : Prop :=
  ∃ node, w.nodes.get? key = some node ∧ node.visited = true ∧ node.visiting = true ∧
    node.valid = false

/-- In a row of walks there is one that accepts a node, and the next one downgrades it. -/
def Downgraded (ws : List Walk) (key : String) : Prop :=
  ∃ before w w' after, ws = before ++ w :: w' :: after ∧ w.Accepts key ∧ w'.Downgrades key

end Walk

/-- What a sort returns, what it leaves on the nodes, and how it came to that. -/
structure Walk.Consistent (w : Walk) (catalog : Catalog) (g : Graph) (ws : List Walk) : Prop where
  /-- The nodes are those of the graph, with their identifiers and edges. -/
  shape : g.SameShape w.nodes
  settled : ∀ {key : String} {node : Node}, w.nodes.get? key = some node →
    node.visited = true ∧ node.visiting = false
  invalid_iff : ∀ {key : String} {node : Node}, w.nodes.get? key = some node →
    (node.valid = false ↔ node.id ∈ w.rejects.keys)
  /-- The reason on a node is that of its reject, and there is none if it is not rejected. -/
  error_eq : ∀ {key : String} {node : Node}, w.nodes.get? key = some node →
    node.error = w.rejects.get? node.id
  nodup : w.finished.Nodup
  /-- Whatever is not rejected stands in the order, registered or not. -/
  mem_finished : ∀ {key : String} {node : Node}, w.nodes.get? key = some node →
    node.id ∉ w.rejects.keys → node.id ∈ w.finished
  /-- A reject stands in the order as well if and only if it was accepted first and downgraded
  later. -/
  downgraded_iff : ∀ {key : String},
    key ∈ w.finished ∧ key ∈ w.rejects.keys ↔ Walk.Downgraded ws key
  /-- What nobody has registered is never rejected. -/
  phantom : ∀ key, key ∉ catalog.keys → ∀ w' ∈ ws, key ∉ w'.rejects.keys
  /-- Providers stand in front of their importers. -/
  order : ∀ {key : String} {node : Node}, w.nodes.get? key = some node → ∀ edge ∈ node.dependents,
    edge.provider ∈ w.finished → edge.importer ∈ w.finished →
      w.finished.idxOf edge.provider < w.finished.idxOf edge.importer

variable {g : Graph} {w w' : Walk} {ws : List Walk} {key : String}

/-! ## Reasons of valid nodes -/

/-- Nodes with a positive verdict have no reason. -/
def Graph.Unblamed (nodes : Graph) : Prop :=
  ∀ key node, nodes.get? key = some node → node.valid = true → node.error = none

namespace Walk

/-- A good link hands no reason on. -/
theorem Link.error_eq_none {valid : Bool} {error : Option Rejection}
    (hlink : w.Link key valid error) (hvalid : valid = true) : error = none := by
  cases hlink with
  | root _ _ => rfl
  | edge _ _ _ =>
      obtain ⟨hnode, hedge⟩ := Bool.and_eq_true_iff.mp hvalid
      rw [linkError, if_pos hedge, if_pos hnode]

theorem Move.unblamed (hmove : w.Move w') (h : w.nodes.Unblamed) : w'.nodes.Unblamed := by
  cases hmove with
  | pass _ _ _ => rwa [nodes_advance]
  | enter hlink _ _ _ =>
      intro other node hnode hvalid
      rw [push, nodes_advance] at hnode
      rcases Ledger.get?_modify_eq_some_iff.mp hnode with ⟨rfl, _, _, rfl⟩ | ⟨_, hold⟩
      · exact hlink.error_eq_none hvalid
      · exact h other node hold hvalid
  | accept _ _ _ _ | reject _ _ _ _ _ =>
      intro other node hnode hvalid
      rcases Ledger.get?_modify_eq_some_iff.mp hnode with ⟨rfl, old, hold, rfl⟩ | ⟨_, hold⟩
      · exact h _ old hold hvalid
      · exact h other node hold hvalid
  | drop _ _ => exact h

end Walk

theorem Graph.Reaches.unblamed (hreaches : g.Reaches w) (hg : g.Untouched) : w.nodes.Unblamed := by
  induction hreaches with
  | refl =>
      intro key node hnode _
      rw [hg.fresh hnode]
      rfl
  | tail _ hmove ih => exact hmove.unblamed ih

/-! ## Accepted first and downgraded later -/

namespace Walk

/-- Nothing is taken out of the order. -/
theorem Move.finished_suffix (hmove : w.Move w') : w.finished <:+ w'.finished := by
  cases hmove with
  | pass _ _ _ | enter _ _ _ _ => simp [push]
  | accept _ _ _ _ => exact List.suffix_cons _ _
  | reject _ _ _ _ _ | drop _ _ => exact List.suffix_refl _

theorem finished_of_run (hrun : Relation.ReflTransGen Move w w') : w.finished <:+ w'.finished := by
  induction hrun with
  | refl => exact List.suffix_refl _
  | tail _ hmove ih => exact ih.trans hmove.finished_suffix

/-- A node of the order that is entered has been accepted. -/
theorem accepts_of_needsVisit (htrail : Trail g w.nodes w.stack)
    (hrecorded : Recorded g w.nodes w.finished w.rejects) {node : Node} {valid : Bool}
    (hnode : w.nodes.get? key = some node) (hneeds : node.needsVisit valid = true)
    (hvisiting : node.visiting = false) (hmem : key ∈ w.finished) : w.Accepts key := by
  have hvisited := (hrecorded.left_of_mem hmem).visited_eq hnode
  have hvalid := htrail.valid_of_needsVisit hnode hneeds hvisiting
  refine ⟨⟨node, hnode, hvisited, hvisiting, hvalid⟩, hmem, fun hreject => ?_⟩
  have hinvalid := (hrecorded.denied_of_mem hreject).valid_eq hnode
  exact Bool.false_ne_true (hinvalid.symm.trans hvalid)

/-- **A node of the order gets a negative verdict by being entered again.** -/
theorem Move.downgrades (hmove : w.Move w') (hg : g.Untouched) (htrail : Trail g w.nodes w.stack)
    (hrecorded : Recorded g w.nodes w.finished w.rejects) (hdenied : w'.nodes.Denied key)
    (hmem : key ∈ w'.finished) :
    (w.nodes.Denied key ∧ key ∈ w.finished) ∨ (w.Accepts key ∧ w'.Downgrades key) := by
  cases hmove with
  | pass _ _ _ => exact Or.inl (by simpa using And.intro hdenied hmem)
  | @enter other valid error target _ htarget hneeds hvisiting =>
      rw [push, finished_advance] at hmem
      obtain ⟨node, hnode, hinvalid⟩ := hdenied
      rw [push, nodes_advance] at hnode
      by_cases hkey : key = other
      · subst hkey
        have hentered : target.entered valid error = node := by
          simpa [htarget] using hnode
        -- what is entered again after it was left must lose its verdict
        have hvisited := (hrecorded.left_of_mem hmem).visited_eq htarget
        rw [← hentered] at hnode hinvalid
        exact Or.inr ⟨accepts_of_needsVisit htrail hrecorded htarget hneeds hvisiting hmem,
          target.entered valid error, by rw [push, nodes_advance, hnode], hvisited, rfl, hinvalid⟩
      · rw [Ledger.get?_modify, if_neg hkey] at hnode
        exact Or.inl ⟨⟨node, hnode, hinvalid⟩, hmem⟩
  | @accept frame below node hstack hnode _ hvalid =>
      have hbefore := Graph.denied_left.mp hdenied
      refine Or.inl ⟨hbefore, (List.mem_cons.mp hmem).resolve_left ?_⟩
      rintro rfl
      rw [htrail.id_eq hg hnode] at hbefore
      exact Bool.false_ne_true ((hbefore.valid_eq hnode).symm.trans hvalid)
  | reject _ _ _ _ _ => exact Or.inl ⟨Graph.denied_left.mp hdenied, hmem⟩
  | drop _ _ => exact Or.inl ⟨hdenied, hmem⟩

end Walk

namespace Graph.Course

/-- A node that is in the order with a negative verdict was accepted first and downgraded later. -/
theorem downgraded {result : Except Halt Walk} (h : g.Course ws result) (hg : g.Untouched)
    (hw : w ∈ ws) (hdenied : w.nodes.Denied key) (hmem : key ∈ w.finished) :
    Walk.Downgraded ws key := by
  by_contra hnone
  -- if no move makes the change, nothing is ever in the order with a negative verdict
  have hchain : ws.IsChain fun w w' =>
      ¬ (w.nodes.Denied key ∧ key ∈ w.finished) → ¬ (w'.nodes.Denied key ∧ key ∈ w'.finished) := by
    refine List.isChain_iff_forall_rel_of_append_cons_cons.mpr ?_
    rintro w w' before after hws hbefore ⟨hdenied, hmem⟩
    have hmove : w.Move w' := List.isChain_iff_forall_rel_of_append_cons_cons.mp h.isChain hws
    have hreaches : g.Reaches w := h.reaches (by simp [hws])
    rcases hmove.downgrades hg (hreaches.trail hg) (hreaches.recorded hg) hdenied hmem with
      hold | hchange
    · exact hbefore hold
    · exact hnone ⟨before, w, w', after, hws, hchange⟩
  refine List.IsChain.induction _ ws hchain (fun _ _ himp => himp) ?_ w hw ⟨hdenied, hmem⟩
  intro hne
  have hhead : ws.head hne = .start g :=
    Option.some.inj ((List.head?_eq_some_head hne).symm.trans (Walk.Course.head?_eq h))
  rw [hhead]
  exact fun hboth => hg.not_denied key hboth.1

/-- A negative verdict stands to the end. -/
theorem denied_of_mem (h : g.Course ws (.ok w)) (hg : g.Untouched) (hw' : w' ∈ ws)
    (hdenied : w'.nodes.Denied key) : w.nodes.Denied key := by
  have hreaches := h.reaches hw'
  obtain ⟨node, hnode, hinvalid⟩ := hdenied
  obtain ⟨reason, hreason⟩ := Option.ne_none_iff_exists'.mp
    ((hreaches.trail hg).error_ne_none hnode hinvalid)
  obtain ⟨later, hlater, hrefused, _⟩ :=
    Walk.refuses_of_run hg hreaches (h.run_of_mem hw') ⟨node, hnode, hinvalid, hreason⟩
  exact ⟨later, hlater, hrefused⟩

/-- **What is in the order and rejected as well.**  The nodes that were accepted first and
downgraded later, and no others. -/
theorem downgraded_iff (h : g.Course ws (.ok w)) (hg : g.Untouched) :
    (key ∈ w.finished ∧ w.nodes.Denied key) ↔ Walk.Downgraded ws key := by
  constructor
  · rintro ⟨hmem, hdenied⟩
    exact h.downgraded hg (List.mem_of_getLast? (Walk.Course.getLast?_eq h)) hdenied hmem
  · rintro ⟨before, first, second, after, rfl, ⟨_, hmem, _⟩, node, hnode, _, _, hinvalid⟩
    have hfirst : first ∈ before ++ first :: second :: after := by simp
    have hsecond : second ∈ before ++ first :: second :: after := by simp
    have hfinished := Walk.finished_of_run (h.run_of_mem hfirst)
    exact ⟨hfinished.subset hmem, h.denied_of_mem hg hsecond ⟨node, hnode, hinvalid⟩⟩

end Graph.Course

/-! ## The outcome of a sort -/

namespace Graph.Untouched

variable (hg : g.Untouched) (h : g.sort = .ok w)

include hg h

theorem denied_iff_mem_rejects : w.nodes.Denied key ↔ key ∈ w.rejects.keys :=
  (hg.denied_iff h).trans (hg.sorted h).mem_rejects_iff.symm

/-- A sort leaves with every node the reason that it gives for it, if any. -/
theorem error_eq_of_sort {node : Node} (hnode : w.nodes.get? key = some node) :
    node.error = w.rejects.get? key := by
  have hreaches := (Graph.sort_ok h).1
  cases hreject : w.rejects.get? key with
  | some reason =>
      obtain ⟨other, hother, _, herror⟩ := (hreaches.reasoned hg).error_eq hreject
      rw [hnode] at hother
      cases hother
      exact herror
  | none =>
      have hvalid : node.valid = true := by
        by_contra hinvalid
        have hdenied : w.nodes.Denied key := ⟨node, hnode, by simpa using hinvalid⟩
        exact Ledger.get?_eq_none_iff.mp hreject ((hg.denied_iff_mem_rejects h).mp hdenied)
      exact hreaches.unblamed hg key node hnode hvalid

/-- In the order of a sort a node stands in front of those that it feeds. -/
theorem idxOf_lt_of_sort {provider importer : String} (hfeeds : g.Feeds provider importer)
    (hprovider : provider ∈ w.finished) (himporter : importer ∈ w.finished) :
    w.finished.idxOf provider < w.finished.idxOf importer := by
  rcases Nat.lt_trichotomy (w.finished.idxOf provider) (w.finished.idxOf importer) with
    hlt | heq | hgt
  · exact hlt
  · -- a node that feeds itself would be a cycle
    rw [(List.idxOf_inj hprovider).mp heq] at hfeeds
    exact absurd hfeeds ((hg.wellFounded_of_sort h).irrefl.irrefl importer)
  · have hnot := List.pairwise_iff_getElem.mp (hg.sorted h).pairwise _ _
      (List.idxOf_lt_length_of_mem himporter) (List.idxOf_lt_length_of_mem hprovider) hgt
    rw [List.getElem_idxOf, List.getElem_idxOf] at hnot
    exact absurd hfeeds hnot

end Graph.Untouched

namespace Catalog

variable {c : Config} {catalog : Catalog}

/-- Only registered plugins are ever rejected. -/
theorem mem_keys_of_mem_rejects (h : (catalog.buildGraph c).graph.Reaches w)
    (hreject : key ∈ w.rejects.keys) : key ∈ catalog.keys := by
  have hg := untouched_buildGraph c catalog
  have hdoomed := (h.judged hg).doomed ((h.recorded hg).denied_of_mem hreject)
  exact (doomed_buildGraph.mp hdoomed).mem_keys

/-- **The accounts of a sort agree.**  When a sort of the graph of a catalogue returns, it has left
every node, the verdicts and reasons of the nodes are those of the rejects, and the order holds
once each what is not rejected, providers first, and besides only nodes that were accepted first and
downgraded later. -/
theorem consistent_of_sort (h : (catalog.buildGraph c).graph.sort = .ok w) :
    ∃ ws, (catalog.buildGraph c).graph.Course ws (.ok w) ∧ ws.getLast? = some w ∧
      w.Consistent catalog (catalog.buildGraph c).graph ws := by
  have hg := untouched_buildGraph c catalog
  -- the course whose end the walk is tells what was accepted and downgraded in between
  obtain ⟨ws, hcourse⟩ := (catalog.buildGraph c).graph.exists_course
  have hown := (hcourse ws (.ok w)).mpr ⟨rfl, h.symm⟩
  obtain ⟨hreaches, hstack, _⟩ := Graph.sort_ok h
  have htrail := hreaches.trail hg
  have hkey : ∀ {key : String} {node : Node}, w.nodes.get? key = some node →
      key ∈ (catalog.buildGraph c).graph.keys := fun hnode =>
    htrail.shape.mem_keys.mp (Ledger.mem_keys_iff.mpr ⟨_, hnode⟩)
  refine ⟨ws, hown, Walk.Course.getLast?_eq hown, ?_⟩
  constructor
  case shape => exact htrail.shape
  case settled =>
    intro key node hnode
    rw [hstack] at htrail
    exact ⟨(hg.left_of_sort h (hkey hnode)).visited_eq hnode, htrail.visiting_of_nil hnode⟩
  case invalid_iff =>
    intro key node hnode
    rw [htrail.id_eq hg hnode, ← hg.denied_iff_mem_rejects h]
    exact ⟨fun hinvalid => ⟨node, hnode, hinvalid⟩, fun hdenied => hdenied.valid_eq hnode⟩
  case error_eq =>
    intro key node hnode
    rw [htrail.id_eq hg hnode]
    exact hg.error_eq_of_sort h hnode
  case nodup => exact (hg.sorted h).nodup
  case mem_finished =>
    intro key node hnode
    rw [htrail.id_eq hg hnode, (hg.sorted h).mem_rejects_iff]
    exact (hg.sorted h).mem_finished (hkey hnode)
  case downgraded_iff =>
    intro key
    rw [← hg.denied_iff_mem_rejects h]
    exact hown.downgraded_iff hg
  case phantom =>
    intro key hphantom w' hw' hreject
    exact hphantom (mem_keys_of_mem_rejects (hown.reaches hw') hreject)
  case order =>
    intro key node hnode edge hedge hprovider himporter
    obtain ⟨node₀, hnode₀, hsame⟩ := Walk.dependents_eq htrail hnode
    rw [← hsame] at hedge
    have hfeeds : (catalog.buildGraph c).graph.Feeds edge.provider edge.importer := by
      rw [provider_eq hnode₀ hedge]
      exact ⟨node₀, hnode₀, edge, hedge, rfl⟩
    exact hg.idxOf_lt_of_sort h hfeeds hprovider himporter

/-- Here `b`, `c` and `f` are accepted first and downgraded later, and `e` is not registered. -/
theorem consistent_of_sort_downgrading :
    ∃ w, (downgrading.buildGraph .default).graph.sort = .ok w ∧
      w.finished = ["e", "f", "a", "d", "b", "c"] ∧ w.rejects.keys = ["c", "b", "f"] ∧
      ∃ ws, (downgrading.buildGraph .default).graph.Course ws (.ok w) ∧ ws.getLast? = some w ∧
        w.Consistent downgrading (downgrading.buildGraph .default).graph ws := by
  have hsort : ∃ w, (downgrading.buildGraph .default).graph.sort = .ok w ∧
      w.finished = ["e", "f", "a", "d", "b", "c"] ∧ w.rejects.keys = ["c", "b", "f"] :=
    ⟨_, rfl, rfl, rfl⟩
  obtain ⟨w, hsort, hfinished, hrejects⟩ := hsort
  exact ⟨w, hsort, hfinished, hrejects, consistent_of_sort hsort⟩

end Catalog

end PluginOrder
