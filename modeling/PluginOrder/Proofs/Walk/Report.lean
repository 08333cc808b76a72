import PluginOrder.Proofs.Walk.Record

/-!
# What a walk reports

A walk reports a reject when it writes it down, and nothing else until it halts.  That each reject
is reported once has to do with second visits: a node that is downgraded is left twice, but only the
second time as invalid, and then it is never entered again.  So a reject that was written down is
settled, its reason is not overwritten, and the journal is the list of the rejects in the order in
which they were written down (`journal_eq`).

A walk that halts at a cycle reports the cycle last (`Stop.journal_eq`).
-/

namespace PluginOrder

/-- What is reported on a reject. -/
def Event.ofReject (entry : String × Rejection) : Event :=
  .nodeRejected entry.1 entry.2.status entry.2.plugin

/-- The journal tells the rejects in their order, and the nodes that are rejected were left. -/
structure Reported (nodes : Graph) (rejects : Ledger Rejection) (journal : List Event) : Prop where
  journal_eq : journal = rejects.entries.map Event.ofReject
  settled : ∀ key ∈ rejects.keys, ∃ node, nodes.get? key = some node ∧ node.valid = false ∧
    node.visiting = false

variable {g nodes : Graph} {stack : List Frame} {key : String} {node : Node}
  {rejects : Ledger Rejection} {journal : List Event}

namespace Reported

theorem start (g : Graph) : Reported g ∅ [] where
  journal_eq := rfl
  settled := by simp

/-- No node that was rejected is entered. -/
theorem push (h : Reported nodes rejects journal) (htrail : Trail g nodes stack) {valid : Bool}
    (error : Option Rejection) (hnode : nodes.get? key = some node)
    (hneeds : node.needsVisit valid = true) (hvisiting : node.visiting = false) :
    Reported (nodes.modify key fun node => node.entered valid error) rejects journal where
  journal_eq := h.journal_eq
  settled := by
    intro other hother
    obtain ⟨old, hold, hinvalid, hleft⟩ := h.settled other hother
    have hne : other ≠ key := by
      rintro rfl
      rw [hnode] at hold
      cases hold
      rw [htrail.valid_of_needsVisit hnode hneeds hvisiting] at hinvalid
      cases hinvalid
    exact ⟨old, by rw [Ledger.get?_modify, if_neg hne, hold], hinvalid, hleft⟩

theorem pop (h : Reported nodes rejects journal) (key : String) :
    Reported (nodes.modify key Node.left) rejects journal where
  journal_eq := h.journal_eq
  settled := by
    intro other hother
    obtain ⟨old, hold, hinvalid, hleft⟩ := h.settled other hother
    by_cases hkey : other = key
    · subst hkey
      exact ⟨old.left, by rw [Ledger.get?_modify_self, hold]; rfl, hinvalid, rfl⟩
    · exact ⟨old, by rw [Ledger.get?_modify, if_neg hkey, hold], hinvalid, hleft⟩

/-- A node that is rejected for the first time goes to the end of the rejects. -/
theorem reject (h : Reported nodes rejects journal) (hnode : nodes.get? key = some node)
    (hvisiting : node.visiting = true) (hinvalid : node.valid = false) (reason : Rejection) :
    Reported (nodes.modify key Node.left) (rejects.insert key reason)
      (journal ++ [Event.ofReject (key, reason)]) where
  journal_eq := by
    have hnew : key ∉ rejects.keys := by
      intro hmem
      obtain ⟨old, hold, _, hleft⟩ := h.settled key hmem
      rw [hnode] at hold
      cases hold
      exact Bool.false_ne_true (hleft.symm.trans hvisiting)
    rw [Ledger.entries_insert hnew, List.map_append, ← h.journal_eq]
    rfl
  settled := by
    intro other hother
    rcases Ledger.mem_keys_insert.mp hother with hold | rfl
    · exact (h.pop key).settled other hold
    · exact ⟨node.left, by rw [Ledger.get?_modify_self, hnode]; rfl, hinvalid, rfl⟩

end Reported

namespace Walk

variable {w w' : Walk}

@[simp] theorem journal_advance (w : Walk) : w.advance.journal = w.journal := by
  unfold advance; split <;> rfl

/-- A move reports the reject that it writes down, if it writes one down. -/
theorem Move.reported (hmove : w.Move w') (hg : g.Untouched) (htrail : Trail g w.nodes w.stack)
    (h : Reported w.nodes w.rejects w.journal) : Reported w'.nodes w'.rejects w'.journal := by
  cases hmove with
  | pass _ _ _ => simpa using h
  | @enter key valid error target _ htarget hneeds hvisiting =>
      simp only [push, nodes_advance, rejects_advance, journal_advance]
      exact h.push htrail error htarget hneeds hvisiting
  | accept _ _ _ _ => exact h.pop _
  | @reject frame below node reason hstack hnode _ hvalid _ =>
      have hvisiting : node.visiting = true := (htrail.visiting_iff hnode).mpr (by simp [hstack])
      simp only [rejecting, pop, report, htrail.id_eq hg hnode]
      exact h.reject hnode hvisiting hvalid reason
  | drop _ _ => exact h

theorem journal_haltAt {id : String} {ids : List String} (h : (w.haltAt id).fault = .cycle ids) :
    (w.haltAt id).walk.journal = w.journal ++ [.cycleFound ids] := by
  unfold haltAt at h ⊢
  dsimp only at h ⊢
  split at h
  · cases h
  · rename_i hway
    cases h
    rw [if_neg hway]
    rfl

theorem Stop.journal_eq {halt : Halt} (hstop : w.Stop halt) {ids : List String}
    (hfault : halt.fault = .cycle ids) : halt.walk.journal = w.journal ++ [.cycleFound ids] := by
  cases hstop with
  | unknown _ _ => cases hfault
  | again _ _ _ _ => rw [journal_haltAt hfault, journal_advance]
  | unjustified _ _ _ _ _ => cases hfault

end Walk

theorem Graph.Reaches.reported {w : Walk} (hreaches : g.Reaches w) (hg : g.Untouched) :
    Reported w.nodes w.rejects w.journal := by
  induction hreaches with
  | refl => exact .start g
  | tail hrun hmove ih => exact hmove.reported hg (Graph.Reaches.trail hrun hg) ih

/-- **The journal of a sort that returns.**  It tells the rejects, each once. -/
theorem Graph.Untouched.journal_of_sort (hg : g.Untouched) {w : Walk} (h : g.sort = .ok w) :
    w.journal = w.rejects.entries.map Event.ofReject :=
  ((Graph.sort_ok h).1.reported hg).journal_eq

/-- **The journal of a sort that fails.**  It tells the rejects so far, and the cycle at the end. -/
theorem Graph.Untouched.journal_of_sort_error (hg : g.Untouched) {halt : Halt}
    (h : g.sort = .error halt) :
    ∃ ids, halt.fault = .cycle ids ∧ ∃ rejects : Ledger Rejection,
      halt.walk.journal = rejects.entries.map Event.ofReject ++ [.cycleFound ids] := by
  obtain ⟨w, hreaches, hstop⟩ := Graph.sort_error h
  obtain ⟨ids, hfault, _⟩ := hstop.circle hg (hreaches.trail hg)
  refine ⟨ids, hfault, w.rejects, ?_⟩
  rw [hstop.journal_eq hfault, (hreaches.reported hg).journal_eq]

end PluginOrder
