import PluginOrder.Proofs.Walk.Recursion

/-!
# Walking through a part of a graph

A walk does not look beyond the edges that it follows.  Two things are said of this, both by
induction on the depth of the recursion that the walk is.

* `visit_changesOnly`: a call for a node of a closed set, one that no edge leads out of, changes
  nothing but what belongs to the set.  The other nodes keep their marks and verdicts, and of the
  other identifiers no verdict is written down.
* `visit_inside`: a call for a node of a part of a graph does what the same call does where there
  is nothing but the part.  The edges that lead out of a part may only lead to leaves.  A call for
  a leaf marks it, leaves it at once, and is done, so it does not come between the calls of the
  part.

-/

namespace PluginOrder

/-- The node with those of its edges that lead to one of the given keys. -/
def Node.within (node : Node) (keys : List String) : Node :=
  { node with dependents := node.dependents.filter fun edge => edge.importer ∈ keys }

namespace Graph

/-- No edge leads out of a set of keys. -/
def Closed (g : Graph) (S : String → Prop) : Prop :=
  ∀ {key importer : String}, S key → g.Feeds key importer → S importer

/-- A key outside of a part to which an edge of the part leads. -/
def Fringe (part g : Graph) (key : String) : Prop :=
  key ∉ part.keys ∧ ∃ provider ∈ part.keys, g.Feeds provider key

/-- A graph is a part of another one.  It has some of its nodes and the edges between them, and all
other edges of these nodes lead to leaves. -/
structure Part (part g : Graph) : Prop where
  get?_eq : ∀ key ∈ part.keys, part.get? key = (g.get? key).map (·.within part.keys)
  leaf : ∀ {key : String} {node : Node}, part.Fringe g key → g.get? key = some node →
    node.dependents = []

end Graph

namespace Tour

variable {g : Graph} {S : String → Prop} {t t' : Tour} {key : String} {node : Node} {valid : Bool}
  {error : Option Rejection} {call : Call} {depth : Nat} {way : List String} {edges : List Edge}

theorem id_node (hg : g.Untouched) (hshape : g.SameShape t.nodes) (key : String) :
    (t.node key).id = key := by
  cases hnode : t.nodes.get? key with
  | none => rw [node, hnode]; rfl
  | some node =>
      obtain ⟨node₀, hnode₀, hid, _⟩ := hshape.of_get? hnode
      rw [node_eq hnode, ← hid, hg.id_eq hnode₀]

/-! ## What a call leaves alone -/

/-- A recursion has gone on and changed nothing but what belongs to a set of keys. -/
structure ChangesOnly (S : String → Prop) (t t' : Tour) : Prop where
  get?_eq : ∀ {key : String}, ¬ S key → t'.nodes.get? key = t.nodes.get? key
  order_eq : ∃ new, t'.order = new ++ t.order ∧ ∀ id ∈ new, S id
  rejects_eq : ∀ {key : String}, ¬ S key → t'.rejects.get? key = t.rejects.get? key

theorem ChangesOnly.refl (S : String → Prop) (t : Tour) : ChangesOnly S t t :=
  ⟨fun _ => rfl, ⟨[], rfl, by simp⟩, fun _ => rfl⟩

theorem ChangesOnly.trans {t'' : Tour} (h : ChangesOnly S t t') (h' : ChangesOnly S t' t'') :
    ChangesOnly S t t'' where
  get?_eq := fun hkey => (h'.get?_eq hkey).trans (h.get?_eq hkey)
  order_eq := by
    obtain ⟨new, hnew, hmem⟩ := h.order_eq
    obtain ⟨newer, hnewer, hmem'⟩ := h'.order_eq
    refine ⟨newer ++ new, by rw [hnewer, hnew, List.append_assoc], fun id hid => ?_⟩
    exact (List.mem_append.mp hid).elim (hmem' id) (hmem id)
  rejects_eq := fun hkey => (h'.rejects_eq hkey).trans (h.rejects_eq hkey)

theorem ChangesOnly.imp {S' : String → Prop} (h : ChangesOnly S t t')
    (himp : ∀ key, S key → S' key) : ChangesOnly S' t t' where
  get?_eq := fun hkey => h.get?_eq fun hS => hkey (himp _ hS)
  order_eq := h.order_eq.imp fun _ hnew => ⟨hnew.1, fun id hid => himp id (hnew.2 id hid)⟩
  rejects_eq := fun hkey => h.rejects_eq fun hS => hkey (himp _ hS)

theorem modify_changesOnly (hkey : S key) (f : Node → Node) :
    ChangesOnly S t { t with nodes := t.nodes.modify key f } where
  get?_eq := by
    intro other hother
    have hne : other ≠ key := fun heq => hother (heq ▸ hkey)
    rw [Ledger.get?_modify, if_neg hne]
  order_eq := ⟨[], rfl, by simp⟩
  rejects_eq := fun _ => rfl

theorem leave_changesOnly (hg : g.Untouched) (hshape : g.SameShape t.nodes) (hkey : S key)
    (h : t.leave key = .done t') : ChangesOnly S t t' := by
  have hunmark : ChangesOnly S t (t.unmark key) := modify_changesOnly hkey Node.left
  have hid := id_node hg hshape key
  unfold leave at h
  split at h
  · cases h
    refine ⟨hunmark.get?_eq, ⟨[key], by simp [hid], by simpa using hkey⟩, fun _ => rfl⟩
  · split at h
    · cases h
    · cases h
      refine ⟨hunmark.get?_eq, ⟨[], rfl, by simp⟩, fun {other} hother => ?_⟩
      have hne : key ≠ other := fun heq => hother (heq ▸ hkey)
      rw [hid, Ledger.get?_insert, if_neg hne]

theorem follow_changesOnly (hkeeps : Keeping call)
    (hcall : ∀ {t t' : Tour} {key : String} {valid : Bool} {error : Option Rejection},
      g.SameShape t.nodes → S key → call t key valid error = .done t' → ChangesOnly S t t')
    (hshape : g.SameShape t.nodes) (hedges : ∀ edge ∈ edges, S edge.importer)
    (h : follow call key edges t = .done t') : ChangesOnly S t t' := by
  induction edges generalizing t with
  | nil => cases h; exact .refl S _
  | cons edge rest ih =>
      rw [List.forall_mem_cons] at hedges
      obtain ⟨next, hnext, hrest⟩ := Ending.andThen_eq_done.mp h
      have hshape' : g.SameShape next.nodes := hshape.trans (hkeeps hnext).shape
      exact (hcall hshape hedges.1 hnext).trans (ih hshape' hedges.2 hrest)

/-- **A call changes nothing outside of a closed set.** -/
theorem visit_changesOnly (hg : g.Untouched) (hclosed : g.Closed S) (hshape : g.SameShape t.nodes)
    (hkey : S key) (h : visit depth way t key valid error = .done t') : ChangesOnly S t t' := by
  induction depth generalizing way t t' key valid error with
  | zero => cases h
  | succ depth ih =>
      unfold visit at h
      split at h
      · cases h
      · rename_i node hnode
        split at h
        · cases h; exact .refl S _
        · split at h
          · unfold haltAt at h
            split at h <;> cases h
          · obtain ⟨last, hfollow, hleave⟩ := Ending.andThen_eq_done.mp h
            have henter : ChangesOnly S t (t.enter key valid error) := modify_changesOnly hkey _
            have hshape' : g.SameShape (t.enter key valid error).nodes :=
              hshape.trans sameShape_enter
            -- the importers of the node are in the set too, as the set is closed
            have hedges : ∀ edge ∈ node.dependents, S edge.importer :=
              fun edge hedge => hclosed hkey (hshape.feeds hnode hedge)
            have hfollowed := follow_changesOnly visit_keeps ih hshape' hedges hfollow
            have hshape'' := hshape'.trans (follow_keeps visit_keeps hfollow).shape
            exact (henter.trans hfollowed).trans (leave_changesOnly hg hshape'' hkey hleave)

theorem visitAll_changesOnly (hg : g.Untouched) (hclosed : g.Closed S)
    (hshape : g.SameShape t.nodes) {keys : List String} (hkeys : ∀ key ∈ keys, S key)
    (h : visitAll depth keys t = .done t') : ChangesOnly S t t' := by
  induction keys generalizing t with
  | nil => cases h; exact .refl S _
  | cons key rest ih =>
      rw [List.forall_mem_cons] at hkeys
      obtain ⟨next, hnext, hrest⟩ := Ending.andThen_eq_done.mp h
      have hshape' : g.SameShape next.nodes := hshape.trans (visit_keeps hnext).shape
      exact (visit_changesOnly hg hclosed hshape hkeys.1 hnext).trans (ih hshape' hkeys.2 hrest)

theorem visitAll_append (first second : List String) (t : Tour) :
    visitAll depth (first ++ second) t =
      (visitAll depth first t).andThen (visitAll depth second) := by
  induction first generalizing t with
  | nil => rfl
  | cons key rest ih =>
      simp only [List.cons_append, visitAll]
      cases visit depth [] t key true none with
      | done next => exact ih next
      | halted fault next => rfl
      | tooDeep => rfl

/-! ## Calls inside of a part -/

/-- A recursion over a part of a graph has come as far as one over the graph. -/
structure Inside (part g : Graph) (t₁ t : Tour) : Prop where
  shape : g.SameShape t.nodes
  get?_eq : ∀ key ∈ part.keys, t₁.nodes.get? key = (t.nodes.get? key).map (·.within part.keys)
  idle : ∀ {key : String} {node : Node}, part.Fringe g key → t.nodes.get? key = some node →
    node.visiting = false
  order_eq : t.order.filter (· ∈ part.keys) = t₁.order
  rejects_eq : ∀ key ∈ part.keys, t.rejects.get? key = t₁.rejects.get? key

end Tour

/-- A call over a part of a graph ends as the one over the graph does. -/
def Ending.Fits (part g : Graph) (e₁ : Ending) : Ending → Prop
  | .done t => ∃ t₁, e₁ = .done t₁ ∧ Tour.Inside part g t₁ t
  | .halted fault _ => ∃ t₁, e₁ = .halted fault t₁
  | .tooDeep => True

theorem Ending.Fits.andThen {part g : Graph} {e₁ e : Ending} {next₁ next : Tour → Ending}
    (h : e₁.Fits part g e)
    (hnext : ∀ {t₁ t}, Tour.Inside part g t₁ t → (next₁ t₁).Fits part g (next t)) :
    (e₁.andThen next₁).Fits part g (e.andThen next) := by
  cases e with
  | done t =>
      obtain ⟨t₁, rfl, hinside⟩ := h
      exact hnext hinside
  | halted fault t =>
      obtain ⟨t₁, rfl⟩ := h
      exact ⟨t₁, rfl⟩
  | tooDeep => exact trivial

namespace Tour

variable {part g : Graph} {t₁ t t' : Tour} {key : String} {node : Node} {valid : Bool}
  {error : Option Rejection} {depth : Nat} {way : List String}

theorem Inside.node_eq (h : Inside part g t₁ t) (hkey : key ∈ part.keys) :
    t₁.node key = (t.node key).within part.keys := by
  rw [node, node, h.get?_eq key hkey]
  cases t.nodes.get? key <;> rfl

theorem ChangesOnly.filter_order (h : ChangesOnly (· ∉ part.keys) t t') :
    t'.order.filter (· ∈ part.keys) = t.order.filter (· ∈ part.keys) := by
  obtain ⟨new, hnew, hmem⟩ := h.order_eq
  have hnone : new.filter (· ∈ part.keys) = [] := by
    rw [List.filter_eq_nil_iff]
    exact fun id hid => by simpa using hmem id hid
  rw [hnew, List.filter_append, hnone, List.nil_append]

/-- What changes nothing of the part keeps the recursions together. -/
theorem Inside.changesOnly (h : Inside part g t₁ t) (hshape : g.SameShape t'.nodes)
    (hchanges : ChangesOnly (· ∉ part.keys) t t')
    (hidle : ∀ {key : String} {node : Node}, part.Fringe g key → t'.nodes.get? key = some node →
      node.visiting = false) : Inside part g t₁ t' where
  shape := hshape
  get?_eq := fun key hkey => by rw [h.get?_eq key hkey, hchanges.get?_eq (not_not.mpr hkey)]
  idle := hidle
  order_eq := hchanges.filter_order.trans h.order_eq
  rejects_eq := fun key hkey => by
    rw [hchanges.rejects_eq (not_not.mpr hkey), h.rejects_eq key hkey]

/-- Both recursions change the node under a key of the part in the same way. -/
theorem Inside.modify (h : Inside part g t₁ t) (hkey : key ∈ part.keys) {f : Node → Node}
    (hid : ∀ node, (f node).id = node.id)
    (hdependents : ∀ node, (f node).dependents = node.dependents)
    (hwithin : ∀ node : Node, f (node.within part.keys) = (f node).within part.keys) :
    Inside part g { t₁ with nodes := t₁.nodes.modify key f }
      { t with nodes := t.nodes.modify key f } where
  shape := h.shape.modify key hid hdependents
  get?_eq := by
    intro other hother
    simp only [Ledger.get?_modify, h.get?_eq other hother]
    by_cases heq : other = key
    · simp [heq, Function.comp_def, hwithin]
    · simp [heq]
  idle := by
    intro other node hfringe hnode
    have hne : other ≠ key := fun heq => hfringe.1 (heq ▸ hkey)
    rw [Ledger.get?_modify, if_neg hne] at hnode
    exact h.idle hfringe hnode
  order_eq := h.order_eq
  rejects_eq := h.rejects_eq

theorem Inside.enter (h : Inside part g t₁ t) (hkey : key ∈ part.keys) (valid : Bool)
    (error : Option Rejection) :
    Inside part g (t₁.enter key valid error) (t.enter key valid error) :=
  h.modify hkey (fun _ => rfl) (fun _ => rfl) fun _ => rfl

theorem Inside.unmark (h : Inside part g t₁ t) (hkey : key ∈ part.keys) :
    Inside part g (t₁.unmark key) (t.unmark key) :=
  h.modify hkey (fun _ => rfl) (fun _ => rfl) fun _ => rfl

theorem Inside.leave (hg : g.Untouched) (h : Inside part g t₁ t) (hkey : key ∈ part.keys) :
    (t₁.leave key).Fits part g (t.leave key) := by
  have hunmark := h.unmark hkey
  have hid := id_node hg h.shape key
  have hid₁ : (t₁.node key).id = key := by rw [h.node_eq hkey]; exact hid
  have hvalid : (t₁.node key).valid = (t.node key).valid := by rw [h.node_eq hkey]; rfl
  have herror : (t₁.node key).error = (t.node key).error := by rw [h.node_eq hkey]; rfl
  unfold Tour.leave
  rw [hvalid, herror, hid₁, hid]
  cases (t.node key).valid with
  | true =>
      refine ⟨_, rfl, hunmark.shape, hunmark.get?_eq, hunmark.idle, ?_, hunmark.rejects_eq⟩
      rw [List.filter_cons_of_pos (by simpa using hkey), h.order_eq]
  | false =>
      cases (t.node key).error with
      | none => exact ⟨_, rfl⟩
      | some reason =>
          refine ⟨_, rfl, hunmark.shape, hunmark.get?_eq, hunmark.idle, hunmark.order_eq, ?_⟩
          intro other hother
          simp only [Ledger.get?_insert, h.rejects_eq other hother]

theorem haltAt_fits (t₁ t : Tour) (way : List String) (id : String) :
    (t₁.haltAt way id).Fits part g (t.haltAt way id) := by
  unfold haltAt
  split
  · exact ⟨_, rfl⟩
  · exact ⟨_, rfl⟩

theorem leave_done (herror : (t.node key).valid = false → (t.node key).error ≠ none) :
    ∃ t', t.leave key = .done t' := by
  unfold Tour.leave
  cases hvalid : (t.node key).valid with
  | true => exact ⟨_, rfl⟩
  | false =>
      cases hreason : (t.node key).error with
      | none => exact absurd hreason (herror hvalid)
      | some reason => exact ⟨_, rfl⟩

/-- A call for a leaf without a mark is done, and leaves it without a mark. -/
theorem visit_leaf (hnode : t.nodes.get? key = some node) (hleaf : node.dependents = [])
    (hidle : node.visiting = false) (herror : valid = false → error ≠ none) :
    ∃ t', visit (depth + 1) way t key valid error = .done t' ∧
      ∀ after, t'.nodes.get? key = some after → after.visiting = false := by
  unfold visit
  simp only [hnode, hidle, hleaf, follow, Ending.andThen]
  cases node.needsVisit valid with
  | false =>
      refine ⟨t, rfl, fun after hafter => ?_⟩
      rw [hnode] at hafter
      cases hafter
      exact hidle
  | true =>
      have hentered := get?_enter hnode valid error
      have hreason : ((t.enter key valid error).node key).valid = false →
          ((t.enter key valid error).node key).error ≠ none := by
        rw [Tour.node_eq hentered]
        exact herror
      obtain ⟨t', hleave⟩ := leave_done hreason
      -- leaving it takes the mark away
      refine ⟨t', hleave, fun after hafter => ?_⟩
      rw [nodes_of_leave hleave, Tour.unmark, Ledger.get?_modify_self, hentered] at hafter
      cases hafter
      rfl

/-- A call for a leaf outside of the part does not come between the calls of the part. -/
theorem visit_fringe (hg : g.Untouched) (hpart : part.Part g) (h : Inside part g t₁ t)
    (hfringe : part.Fringe g key) (herror : valid = false → error ≠ none) :
    ∃ t', visit (depth + 1) way t key valid error = .done t' ∧ Inside part g t₁ t' := by
  have hkey : key ∈ g.keys := by
    obtain ⟨provider, _, node₀, hnode₀, edge, hedge, rfl⟩ := hfringe.2
    exact hg.importer_mem hnode₀ edge hedge
  obtain ⟨leaf, hleaf⟩ := Ledger.mem_keys_iff.mp hkey
  obtain ⟨node, hnode, _, hsame⟩ := h.shape.get? hleaf
  have hnone : node.dependents = [] := hsame.trans (hpart.leaf hfringe hleaf)
  obtain ⟨t', hvisit, hafter⟩ := visit_leaf hnode hnone (h.idle hfringe hnode) herror
  refine ⟨t', hvisit, ?_⟩
  -- a leaf is a closed set of its own, so the call changes nothing else
  have hclosed : g.Closed (· = key) := by
    rintro _ importer rfl ⟨leaf', hleaf', edge, hedge, _⟩
    rw [hpart.leaf hfringe hleaf'] at hedge
    cases hedge
  have hchanges := visit_changesOnly hg hclosed h.shape rfl hvisit
  refine h.changesOnly (h.shape.trans (visit_keeps hvisit).shape)
    (hchanges.imp fun _ heq => heq ▸ hfringe.1) fun {other after} hother hget => ?_
  by_cases heq : other = key
  · exact hafter after (heq ▸ hget)
  · rw [hchanges.get?_eq heq] at hget
    exact h.idle hother hget

/-- Both recursions follow the edges of a node alike: those that lead out of the part are passed
over in the one, and lead to leaves in the other. -/
theorem follow_fits (hg : g.Untouched) (hpart : part.Part g) (hkey : key ∈ part.keys)
    (hcall : ∀ {t₁ t : Tour} {key : String} {valid : Bool} {error : Option Rejection},
      Inside part g t₁ t → key ∈ part.keys →
        (visit depth way t₁ key valid error).Fits part g (visit depth way t key valid error))
    (h : Inside part g t₁ t) {edges : List Edge}
    (hfeeds : ∀ edge ∈ edges, g.Feeds key edge.importer)
    (herrors : ∀ edge ∈ edges, edge.valid = false → edge.error ≠ none) :
    (follow (visit depth way) key
        (edges.filter fun edge => edge.importer ∈ part.keys) t₁).Fits part g
      (follow (visit depth way) key edges t) := by
  induction edges generalizing t₁ t with
  | nil => exact ⟨t₁, rfl, h⟩
  | cons edge rest ih =>
      rw [List.forall_mem_cons] at hfeeds herrors
      have hlink : linkError (t₁.node key) edge = linkError (t.node key) edge := by
        rw [h.node_eq hkey]; rfl
      have hvalid : (t₁.node key).valid = (t.node key).valid := by rw [h.node_eq hkey]; rfl
      by_cases hin : edge.importer ∈ part.keys
      · rw [List.filter_cons_of_pos (by simpa using hin), follow, follow, hlink, hvalid]
        exact (hcall h hin).andThen fun hnext => ih hnext hfeeds.2 herrors.2
      · rw [List.filter_cons_of_neg (by simpa using hin), follow]
        -- the importer is a leaf outside of the part, so the part does not notice
        have hfringe : part.Fringe g edge.importer := ⟨hin, key, hkey, hfeeds.1⟩
        cases depth with
        | zero => exact trivial
        | succ depth =>
            have hreason : ((t.node key).valid && edge.valid) = false →
                linkError (t.node key) edge ≠ none :=
              fun hbad => Walk.linkError_ne_none hbad herrors.1
            obtain ⟨t', hvisit, hinside⟩ :=
              visit_fringe hg hpart h hfringe hreason
            rw [hvisit]
            exact ih hinside hfeeds.2 herrors.2

/-- **A call inside of a part does what it does where there is nothing but the part.** -/
theorem visit_inside (hg : g.Untouched) (hpart : part.Part g) (h : Inside part g t₁ t)
    (hkey : key ∈ part.keys) :
    (visit depth way t₁ key valid error).Fits part g (visit depth way t key valid error) := by
  induction depth generalizing way t₁ t key valid error with
  | zero => exact trivial
  | succ depth ih =>
      unfold visit
      rw [h.get?_eq key hkey]
      cases hnode : t.nodes.get? key with
      | none => exact ⟨t₁, rfl⟩
      | some node =>
          have hneeds : (node.within part.keys).needsVisit valid = node.needsVisit valid := rfl
          have hvisiting : (node.within part.keys).visiting = node.visiting := rfl
          have hid : (node.within part.keys).id = node.id := rfl
          simp only [Option.map_some, hneeds, hvisiting, hid]
          split
          · exact ⟨t₁, rfl, h⟩
          · split
            · exact haltAt_fits t₁ t way node.id
            · obtain ⟨node₀, hnode₀, _, hsame⟩ := h.shape.of_get? hnode
              refine Ending.Fits.andThen ?_ fun hlast => hlast.leave hg hkey
              refine follow_fits hg hpart hkey ih (h.enter hkey valid error) ?_ ?_
              · exact fun edge hedge => h.shape.feeds hnode hedge
              · exact fun edge hedge => hg.error_ne_none hnode₀ edge (hsame ▸ hedge)

theorem visitAll_inside (hg : g.Untouched) (hpart : part.Part g) (h : Inside part g t₁ t)
    {keys : List String} (hkeys : ∀ key ∈ keys, key ∈ part.keys) :
    (visitAll depth keys t₁).Fits part g (visitAll depth keys t) := by
  induction keys generalizing t₁ t with
  | nil => exact ⟨t₁, rfl, h⟩
  | cons key rest ih =>
      rw [List.forall_mem_cons] at hkeys
      exact (visit_inside hg hpart h hkeys.1).andThen fun hnext => ih hnext hkeys.2

/-- Where nothing of the part was touched, the recursion over the part has its start. -/
theorem inside_start (hpart : part.Part g) {S : String → Prop} (hS : ∀ key ∈ part.keys, ¬ S key)
    (hshape : g.SameShape t.nodes) (hchanges : ChangesOnly S (.start g) t)
    (hidle : ∀ {key : String} {node : Node}, part.Fringe g key → t.nodes.get? key = some node →
      node.visiting = false) : Inside part g (.start part) t where
  shape := hshape
  get?_eq := fun key hkey => by rw [hchanges.get?_eq (hS key hkey)]; exact hpart.get?_eq key hkey
  idle := hidle
  order_eq := (hchanges.imp fun key hkey hmem => hS key hmem hkey).filter_order
  rejects_eq := fun key hkey => hchanges.rejects_eq (hS key hkey)

end Tour

end PluginOrder
