import PluginOrder.Proofs.Failure
import PluginOrder.Yaml.Draft

/-!
# Where a document cannot be made

When the values of a document are made, only a scalar can be at fault, or a map that is marked with
a kind of scalars (`Unmade`), apart from a document that is malformed (`isMaking_of_document`).

While they are made the nodes change: maps take in the entries of others, and the key for a default
becomes a text.  But a scalar keeps its text and every node its shape (`Draft.Kin`), so a scalar
without a value was there from the beginning.
-/

namespace PluginOrder.Yaml

open Text (CodePoint)

/-- A value that nodes stand for cannot be made: a scalar has no value of its kind, or a map is
marked with a kind of scalars, and what stands for it has no value of this kind. -/
inductive Unmade (nodes : Array Node) (fault : Fault) : Prop
  | scalar {tag : Tag} {text : List CodePoint} (hnode : .scalar tag text ∈ nodes)
      (hread : readScalar tag text = .error fault)
  | map {tag tag' : Tag} {entries : List (Nat × Nat)} {text : List CodePoint}
      (hmap : .map tag entries ∈ nodes) (hnode : .scalar tag' text ∈ nodes)
      (hread : readScalar tag text = .error fault)
  | stamped {entries : List (Nat × Nat)} (hmap : .map .timestamp entries ∈ nodes)
      (hfault : fault = .stampedMap)

namespace Draft

variable {α : Type} {nodes : Array Node}

/-- A node in the making is the original one, but its entries may have changed and it may be marked
as a text. -/
inductive Kin : Node → Node → Prop
  | scalar {tag tag' : Tag} {text : List CodePoint} (htag : tag' = tag ∨ tag' = .text) :
      Kin (.scalar tag text) (.scalar tag' text)
  | list {tag tag' : Tag} {items items' : List Nat} : Kin (.list tag items) (.list tag' items')
  | map {tag tag' : Tag} {entries entries' : List (Nat × Nat)} (htag : tag' = tag ∨ tag' = .text) :
      Kin (.map tag entries) (.map tag' entries')

theorem Kin.withText {original node : Node} (h : Kin original node) :
    Kin original (node.withTag .text) := by
  cases h with
  | scalar _ => exact .scalar (Or.inr rfl)
  | list => exact .list
  | map _ => exact .map (Or.inr rfl)

/-- A node is one in the making of the node with a number. -/
def IsKin (nodes : Array Node) (number : Nat) (node : Node) : Prop :=
  ∃ original, nodes[number]? = some original ∧ Kin original node

/-- The node with a number is a map. -/
def IsMap (nodes : Array Node) (number : Nat) : Prop :=
  ∃ tag entries, nodes[number]? = some (.map tag entries)

/-- The nodes of a draft are in the making of some nodes. -/
def Descends (nodes : Array Node) (d : Draft) : Prop :=
  ∀ number node, d.nodes[number]? = some node → IsKin nodes number node

/-- The fault of a document that cannot be made. -/
def IsMaking (nodes : Array Node) (fault : Fault) : Prop := fault = .malformed ∨ Unmade nodes fault

/-- A step that makes a document of some nodes goes on, or fails with a fault of the making. -/
abbrev Makes (nodes : Array Node) (post : α → Prop) (m : Make α) : Prop :=
  Keeps (Descends nodes) (IsMaking nodes) post m

theorem makes_malformed {post : α → Prop} : Makes nodes post (throw .malformed : Make α) :=
  Keeps.throw (Or.inl rfl)

theorem makes_node (number : Nat) : Makes nodes (IsKin nodes number) (node number) := by
  refine Keeps.bind Keeps.get fun d hd => ?_
  split
  · rename_i found hfound
    exact Keeps.pure (hd number found hfound)
  · exact makes_malformed

theorem makes_setNode {number : Nat} {node : Node} (h : IsKin nodes number node) :
    Makes nodes (fun _ => True) (setNode number node) := by
  refine Keeps.update fun d hd other found hfound => ?_
  simp only [Array.getElem?_setIfInBounds] at hfound
  split at hfound
  · rename_i heq
    split at hfound
    · cases hfound
      exact heq ▸ h
    · cases hfound
  · exact hd other found hfound

/-! ## Merging -/

theorem makes_entries (number : Nat) :
    Makes nodes (fun _ => IsMap nodes number) (entries number) := by
  refine (makes_node number).bind fun found hfound => ?_
  obtain ⟨original, horiginal, hkin⟩ := hfound
  cases hkin with
  | scalar _ => exact makes_malformed
  | list => exact makes_malformed
  | map _ => exact Keeps.pure ⟨_, _, horiginal⟩

theorem makes_setEntries {number : Nat} (h : IsMap nodes number) (entries : List (Nat × Nat)) :
    Makes nodes (fun _ => True) (setEntries number entries) := by
  refine (makes_node number).bind fun found hfound => makes_setNode ?_
  obtain ⟨tag, originals, hmap⟩ := h
  obtain ⟨original, horiginal, hkin⟩ := hfound
  rw [hmap] at horiginal
  cases horiginal
  cases hkin with
  | map htag => exact ⟨_, hmap, .map htag⟩

theorem makes_takeMerge? (number : Nat) : Makes nodes (fun _ => True) (takeMerge? number) := by
  refine Keeps.bind Keeps.get fun d _ => (makes_entries number).bind fun all hmap => ?_
  dsimp only
  split
  · exact Keeps.pure trivial
  · exact (makes_setEntries hmap _).bind fun _ _ => Keeps.pure trivial

theorem makes_nameDefaults (number : Nat) : Makes nodes (fun _ => True) (nameDefaults number) := by
  refine (makes_entries number).bind fun all _ => ?_
  refine (Keeps.forIn (q := fun _ => True) (fun entry _ _ _ => ?_) trivial).bind fun _ _ =>
    Keeps.pure trivial
  refine (makes_node entry.1).bind fun keyNode hkey => ?_
  obtain ⟨original, horiginal, hkin⟩ := hkey
  split
  · exact (makes_setNode ⟨original, horiginal, hkin.withText⟩).bind fun _ _ => Keeps.pure trivial
  · exact Keeps.pure trivial

mutual

theorem makes_merge (depth number : Nat) : Makes nodes (fun _ => True) (merge depth number) := by
  cases depth with
  | zero => exact makes_malformed
  | succ depth =>
      simp only [merge]
      refine (makes_takeMerges depth number).bind fun merged _ => ?_
      refine (makes_entries number).bind fun own hmap => ?_
      exact (makes_setEntries hmap _).bind fun _ _ => makes_nameDefaults number

theorem makes_takeMerges (depth number : Nat) :
    Makes nodes (fun _ => True) (takeMerges depth number) := by
  cases depth with
  | zero => exact makes_malformed
  | succ depth =>
      simp only [takeMerges]
      refine (makes_takeMerge? number).bind fun source? _ => ?_
      split
      · exact Keeps.pure trivial
      · refine (makes_node _).bind fun source _ => ?_
        have hpart (part : Nat) : Makes nodes (fun _ => True) (do merge depth part; entries part) :=
          (makes_merge depth part).bind fun _ _ => (makes_entries part).weaken fun _ _ => trivial
        refine Keeps.bind (p := fun _ => True) ?_ fun gathered _ => ?_
        · exact (Keeps.mapM (q := fun _ => True) fun part _ => hpart part).weaken fun _ _ => trivial
        · exact (makes_takeMerges depth number).bind fun _ _ => Keeps.pure trivial

end

/-! ## Scalars -/

theorem exists_scalar_of_scalarText? {turns number : Nat} {text : List CodePoint}
    {made : Array Node} (h : scalarText? made turns number = some text) :
    ∃ (other : Nat) (tag : Tag), made[other]? = some (Node.scalar tag text) := by
  induction turns generalizing number with
  | zero => cases h
  | succ turns ih =>
      simp only [scalarText?] at h
      split at h
      · rename_i tag found hfound
        cases h
        exact ⟨number, tag, hfound⟩
      · obtain ⟨entry, -, hentry⟩ := Option.bind_eq_some_iff.mp h
        exact ih hentry
      · cases h
      · cases h

theorem Descends.exists_scalar {d : Draft} (hd : Descends nodes d) {turns number : Nat}
    {text : List CodePoint} (h : scalarText? d.nodes turns number = some text) :
    ∃ tag, Node.scalar tag text ∈ nodes := by
  obtain ⟨other, tag, hother⟩ := exists_scalar_of_scalarText? h
  obtain ⟨original, horiginal, hkin⟩ := hd other _ hother
  cases hkin with
  | scalar _ => exact ⟨_, Array.mem_of_getElem? horiginal⟩

/-- What stands for a scalar is its own text. -/
theorem Descends.scalarText?_eq {d : Draft} (hd : Descends nodes d) {turns number : Nat}
    {node : Node} (hnode : IsKin nodes number node) {text : List CodePoint}
    (h : scalarText? d.nodes (turns + 1) number = some text) :
    (∃ tag tag', nodes[number]? = some (.scalar tag text) ∧ (tag' = tag ∨ tag' = .text) ∧
      node = .scalar tag' text) ∨ IsMap nodes number := by
  obtain ⟨original, horiginal, hkin⟩ := hnode
  simp only [scalarText?] at h
  split at h
  · rename_i found hfound
    cases h
    obtain ⟨original', horiginal', hkin'⟩ := hd number _ hfound
    rw [horiginal] at horiginal'
    cases horiginal'
    cases hkin' with
    | scalar _ =>
        cases hkin with
        | scalar htag => exact Or.inl ⟨_, _, horiginal, htag, rfl⟩
  · rename_i hfound
    obtain ⟨original', horiginal', hkin'⟩ := hd number _ hfound
    cases hkin' with
    -- the text may also come from a map, by its default
    | map _ => exact Or.inr ⟨_, _, horiginal'⟩
  · cases h
  · cases h

theorem meets_readScalar {d : Draft} (hd : Descends nodes d) {turns number : Nat} {node : Node}
    (hnode : IsKin nodes number node) {text : List CodePoint}
    (h : scalarText? d.nodes (turns + 1) number = some text) :
    Meets (fun _ => True) (IsMaking nodes) (readScalar node.tag text) := by
  cases hread : readScalar node.tag text with
  | ok v => trivial
  | error fault =>
      right
      -- a node that is marked as a text has a value
      have htext : node.tag ≠ .text := by
        intro htext
        rw [htext] at hread
        cases hread
      rcases hd.scalarText?_eq hnode h with ⟨tag, tag', horiginal, htag, rfl⟩ | ⟨tag, entries, hmap⟩
      · rcases htag with rfl | rfl
        · exact .scalar (Array.mem_of_getElem? horiginal) hread
        · exact absurd rfl htext
      · obtain ⟨original, horiginal, hkin⟩ := hnode
        obtain ⟨tag'', hscalar⟩ := hd.exists_scalar h
        rw [hmap] at horiginal
        cases horiginal
        cases hkin with
        | map htag =>
            rcases htag with rfl | rfl
            · exact .map (Array.mem_of_getElem? hmap) hscalar hread
            · exact absurd rfl htext

theorem makes_begin (number : Nat) : Makes nodes (fun _ => True) (begin number) := by
  refine (makes_node number).bind fun node hnode => Keeps.bind Keeps.get fun d hd => ?_
  split
  · split
    · exact Keeps.bind (Keeps.put hd) fun _ _ => Keeps.pure (p := fun _ => True) trivial
    · exact Keeps.pure trivial
  · split
    · exact makes_malformed
    · rename_i htext _
      exact Keeps.lift (meets_readScalar hd hnode htext)
    · obtain ⟨original, horiginal, hkin⟩ := hnode
      cases hkin with
      | map htag =>
          rcases htag with rfl | htag
          · exact Keeps.throw (Or.inr (.stamped (Array.mem_of_getElem? horiginal) rfl))
          · cases htag
    · rename_i htext _
      exact Keeps.lift (meets_readScalar hd hnode htext)

/-! ## Collections -/

theorem makes_beginKey (number : Nat) : Makes nodes (fun _ => True) (beginKey number) := by
  refine (makes_begin number).bind fun value _ => ?_
  split
  · exact makes_malformed
  · exact Keeps.bind Keeps.get fun _ _ => Keeps.pure trivial

theorem makes_beginEntries (number : Nat) : Makes nodes (fun _ => True) (beginEntries number) := by
  refine (makes_entries number).bind fun _ _ => Keeps.bind Keeps.get fun d _ => ?_
  refine (makes_merge d.depth number).bind fun _ _ => (makes_entries number).bind fun all _ => ?_
  refine (Keeps.forIn (q := fun _ => True) (fun entry _ _ _ => ?_) trivial).bind fun _ _ =>
    Keeps.pure trivial
  refine (makes_beginKey entry.1).bind fun key _ => (makes_begin entry.2).bind fun value _ => ?_
  exact Keeps.pure trivial

theorem makes_beginPair (number : Nat) : Makes nodes (fun _ => True) (beginPair number) := by
  refine (makes_entries number).bind fun all _ => ?_
  split
  · exact (makes_begin _).bind fun _ _ => (makes_begin _).bind fun _ _ => Keeps.pure trivial
  · exact makes_malformed

theorem makes_items (number : Nat) : Makes nodes (fun _ => True) (items number) := by
  refine (makes_node number).bind fun node _ => ?_
  split
  · exact Keeps.pure trivial
  · exact makes_malformed
  · exact makes_malformed

theorem makes_fill (number : Nat) : Makes nodes (fun _ => True) (fill number) := by
  refine (makes_node number).bind fun node _ => ?_
  extract_lets write
  have hwrite (value : Value) (_ : True) : Makes nodes (fun _ => True) (write value) :=
    Keeps.update fun _ hd => hd
  have hentries (made : List (Value × Value) → Value) : Makes nodes (fun _ => True) (do
      let value ← pure (made (← beginEntries number))
      write value) :=
    (makes_beginEntries number).bind fun _ _ => (Keeps.pure trivial).bind hwrite
  -- a list takes its items in turn, each made by the same step
  have hitems (step : Nat → Make Value) (hstep : ∀ item, Makes nodes (fun _ => True) (step item)) :
      Makes nodes (fun _ => True) (do
        let value ← pure (.list (← (← items number).mapM step))
        write value) :=
    (makes_items number).bind fun all _ =>
      (Keeps.mapM (q := fun _ => True) fun item _ => hstep item).bind fun _ _ =>
        (Keeps.pure trivial).bind hwrite
  split
  · exact hitems _ makes_begin
  · exact hentries _
  · exact hentries _
  · exact hitems _ makes_beginPair
  · exact hitems _ makes_beginPair
  · exact makes_malformed.bind hwrite

theorem makes_fillAll (turns : Nat) : Makes nodes (fun _ => True) (fillAll turns) := by
  induction turns with
  | zero => exact makes_malformed
  | succ turns ih =>
      simp only [fillAll]
      refine Keeps.bind Keeps.get fun d _ => ?_
      split
      · exact Keeps.pure trivial
      · refine Keeps.bind (Keeps.update fun _ hd => hd) fun _ _ => ?_
        exact Keeps.bind (Keeps.forM fun number _ => makes_fill number) fun _ _ => ih

theorem makes_finish (root : Nat) : Makes nodes (fun _ => True) (finish root) :=
  (makes_begin root).bind fun _ _ => Keeps.bind Keeps.get fun _ _ =>
    (makes_fillAll _).bind fun _ _ => Keeps.pure trivial

end Draft

/-- Nodes stand for no document only because the document is malformed, or because a scalar has no
value of its kind. -/
theorem isMaking_of_document {table : NodeTable} {fault : Fault}
    (h : table.document = .error fault) : Draft.IsMaking table.nodes fault := by
  have hdescends : Draft.Descends table.nodes (.ofNodes table.nodes) := by
    intro number node hnode
    refine ⟨node, hnode, ?_⟩
    cases node with
    | scalar tag text => exact .scalar (Or.inl rfl)
    | list tag items => exact .list
    | map tag entries => exact .map (Or.inl rfl)
  have hmakes := Draft.makes_finish table.root _ hdescends
  exact (hmakes.map (q := fun _ => True) fun _ _ => trivial).fault h

end PluginOrder.Yaml
