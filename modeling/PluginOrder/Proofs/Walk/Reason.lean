import PluginOrder.Proofs.Walk.Verdict

/-!
# The reasons of a walk

Whoever is rejected is told why.  The reason is that of the bad link by which the walk happened to
enter the node, read off the provider as it was then, while the verdicts around it were still
changing.  It stays true all the same: a verdict that is negative stays negative, so a provider
that was blamed once is among the rejected in the end.

`Accounts` says which reasons there can be for a node: the error of an invalid edge to it, or the
failure of the provider of a valid one.  `Reasoned` carries along that the reason of every node
with a negative verdict is one of these, and that a reason which was written down is still the
reason of its node (`accounts_of_sort`).
-/

namespace PluginOrder

/-- A reason for a negative verdict on the node under a key: an invalid edge leads to the node and
has this error, or a valid edge does and comes from a node that is denied itself. -/
inductive Graph.Accounts (g : Graph) (denied : String → Prop) (key : String) : Rejection → Prop
  | bad {provider : String} {node : Node} {edge : Edge} {reason : Rejection}
      (hnode : g.get? provider = some node) (hedge : edge ∈ node.dependents)
      (himporter : edge.importer = key) (hinvalid : edge.valid = false)
      (herror : edge.error = some reason) : Accounts g denied key reason
  | cascade {provider : String} {node : Node} {edge : Edge}
      (hnode : g.get? provider = some node) (hedge : edge ∈ node.dependents)
      (himporter : edge.importer = key) (hvalid : edge.valid = true)
      (hprovider : denied provider) :
      Accounts g denied key ⟨.requiredPluginFailedToLoad, edge.provider, none, .null⟩

theorem Graph.Accounts.imp {g : Graph} {denied denied' : String → Prop} {key : String}
    {reason : Rejection} (h : g.Accounts denied key reason)
    (himp : ∀ other, denied other → denied' other) : g.Accounts denied' key reason := by
  cases h with
  | bad hnode hedge himporter hinvalid herror => exact .bad hnode hedge himporter hinvalid herror
  | cascade hnode hedge himporter hvalid hprovider =>
      exact .cascade hnode hedge himporter hvalid (himp _ hprovider)

/-- Negative verdicts have reasons that account for them, and the reasons written down are those
of their nodes. -/
structure Reasoned (g nodes : Graph) (rejects : Ledger Rejection) : Prop where
  accounts : ∀ {key : String} {node : Node} {reason : Rejection}, nodes.get? key = some node →
    node.valid = false → node.error = some reason → g.Accounts nodes.Denied key reason
  error_eq : ∀ {key : String} {reason : Rejection}, rejects.get? key = some reason →
    ∃ node, nodes.get? key = some node ∧ node.valid = false ∧ node.error = some reason

variable {g nodes : Graph} {stack : List Frame} {key : String} {node : Node} {reason : Rejection}
  {rejects : Ledger Rejection}

namespace Reasoned

theorem start (hg : g.Untouched) : Reasoned g g ∅ where
  accounts := by
    intro key node reason hnode hinvalid
    exact absurd ⟨node, hnode, hinvalid⟩ (hg.not_denied key)
  error_eq := by simp

/-- Entering a node by a link whose reason, if it is bad, accounts for the verdict. -/
theorem push (h : Reasoned g nodes rejects) (htrail : Trail g nodes stack) {valid : Bool}
    {error : Option Rejection} (hnode : nodes.get? key = some node)
    (hneeds : node.needsVisit valid = true) (hvisiting : node.visiting = false)
    (haccounts : valid = false → ∀ reason, error = some reason →
      g.Accounts nodes.Denied key reason) :
    Reasoned g (nodes.modify key fun node => node.entered valid error) rejects where
  accounts := by
    intro other node' reason hnode' hinvalid herror
    have hbefore : g.Accounts nodes.Denied other reason := by
      rcases Ledger.get?_modify_eq_some_iff.mp hnode' with ⟨rfl, _, _, rfl⟩ | ⟨_, hold⟩
      · exact haccounts hinvalid reason herror
      · exact h.accounts hold hinvalid herror
    exact hbefore.imp fun _ hdenied => htrail.denied_entered hnode hneeds hvisiting hdenied
  error_eq := by
    intro other reason hreject
    obtain ⟨old, hold, hinvalid, herror⟩ := h.error_eq hreject
    -- the node that is entered has a positive verdict, so no reason of it was written down
    have hne : other ≠ key := by
      rintro rfl
      rw [hnode] at hold
      cases hold
      rw [htrail.valid_of_needsVisit hnode hneeds hvisiting] at hinvalid
      cases hinvalid
    exact ⟨old, by rw [Ledger.get?_modify, if_neg hne, hold], hinvalid, herror⟩

/-- Leaving a node changes neither verdicts nor reasons. -/
theorem pop (h : Reasoned g nodes rejects) (key : String) :
    Reasoned g (nodes.modify key Node.left) rejects where
  accounts := by
    intro other node' reason hnode' hinvalid herror
    have hbefore : ∃ old, nodes.get? other = some old ∧ old.valid = false ∧
        old.error = some reason := by
      rcases Ledger.get?_modify_eq_some_iff.mp hnode' with ⟨rfl, old, hold, rfl⟩ | ⟨_, hold⟩
      · exact ⟨old, hold, hinvalid, herror⟩
      · exact ⟨node', hold, hinvalid, herror⟩
    obtain ⟨old, hold, holdInvalid, holdError⟩ := hbefore
    exact (h.accounts hold holdInvalid holdError).imp fun _ hdenied => Graph.denied_left.mpr hdenied
  error_eq := by
    intro other reason hreject
    obtain ⟨old, hold, hinvalid, herror⟩ := h.error_eq hreject
    by_cases hkey : other = key
    · subst hkey
      exact ⟨old.left, by rw [Ledger.get?_modify_self, hold]; rfl, hinvalid, herror⟩
    · exact ⟨old, by rw [Ledger.get?_modify, if_neg hkey, hold], hinvalid, herror⟩

/-- Writing down the reason of a node with a negative verdict. -/
theorem insert (h : Reasoned g nodes rejects) (hnode : nodes.get? key = some node)
    (hinvalid : node.valid = false) (hreason : node.error = some reason) :
    Reasoned g nodes (rejects.insert key reason) where
  accounts := h.accounts
  error_eq := by
    intro other reason' hreject
    rw [Ledger.get?_insert] at hreject
    split at hreject
    · rename_i hkey
      subst hkey
      cases hreject
      exact ⟨node, hnode, hinvalid, hreason⟩
    · exact h.error_eq hreject

end Reasoned

namespace Walk

variable {w w' : Walk}

/-- The reason of a bad link accounts for a negative verdict on the node that it leads to. -/
theorem Link.accounts {valid : Bool} {error : Option Rejection} (hlink : w.Link key valid error)
    (htrail : Trail g w.nodes w.stack) (hvalid : valid = false) (herror : error = some reason) :
    g.Accounts w.nodes.Denied key reason := by
  cases hlink with
  | root _ _ => cases hvalid
  | @edge frame below node edge _ hnode hedge =>
      obtain ⟨node₀, hnode₀, hsame⟩ := dependents_eq htrail hnode
      have hmem : edge ∈ node₀.dependents := hsame ▸ List.mem_of_getElem? hedge
      unfold linkError at herror
      cases hedgeValid : edge.valid with
      | false =>
          rw [hedgeValid, if_neg Bool.false_ne_true] at herror
          exact .bad hnode₀ hmem rfl hedgeValid herror
      | true =>
          -- the edge is valid, so the node it comes from is not
          have hnodeInvalid : node.valid = false := by simpa [hedgeValid] using hvalid
          simp only [hedgeValid, hnodeInvalid, if_true, Bool.false_eq_true, if_false] at herror
          cases herror
          exact .cascade hnode₀ hmem rfl hedgeValid ⟨node, hnode, hnodeInvalid⟩

theorem Move.reasoned (hmove : w.Move w') (hg : g.Untouched) (htrail : Trail g w.nodes w.stack)
    (h : Reasoned g w.nodes w.rejects) : Reasoned g w'.nodes w'.rejects := by
  cases hmove with
  | pass _ _ _ => simpa using h
  | enter hlink htarget hneeds hvisiting =>
      simp only [push, nodes_advance, rejects_advance]
      exact h.push htrail htarget hneeds hvisiting fun hvalid reason herror =>
        hlink.accounts htrail hvalid herror
  | accept _ _ _ _ => exact h.pop _
  | @reject frame below node reason hstack hnode _ hvalid hreason =>
      simp only [rejecting, pop, report, htrail.id_eq hg hnode]
      exact (h.insert hnode hvalid hreason).pop _
  | drop _ _ => exact h

end Walk

theorem Graph.Reaches.reasoned {w : Walk} (hreaches : g.Reaches w) (hg : g.Untouched) :
    Reasoned g w.nodes w.rejects := by
  induction hreaches with
  | refl => exact .start hg
  | tail hrun hmove ih => exact hmove.reasoned hg (Graph.Reaches.trail hrun hg) ih

/-- **The reasons of a sort.**  When a sort returns, every reason that it gives accounts for the
verdict on its node: it is the error of an invalid edge, or the failure of a doomed provider. -/
theorem Graph.Untouched.accounts_of_sort (hg : g.Untouched) {w : Walk} (h : g.sort = .ok w)
    (hreject : w.rejects.get? key = some reason) : g.Accounts g.Doomed key reason := by
  obtain ⟨hreaches, _, _⟩ := Graph.sort_ok h
  have hreasoned := hreaches.reasoned hg
  obtain ⟨node, hnode, hinvalid, herror⟩ := hreasoned.error_eq hreject
  exact (hreasoned.accounts hnode hinvalid herror).imp fun _ hdenied => (hg.denied_iff h).mp hdenied

end PluginOrder
