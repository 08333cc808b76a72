import PluginOrder.Proofs.Failure
import PluginOrder.Yaml.Node

/-!
# Where the nodes of a document end

The readers of nodes fail when tokens do not fit together, and when they come to a token that tells
of a fault (`Node.isTold_of_ofTokens`).  Such a token is one of those that they were given, because
what is left to read is an end of them at every step (`Node.Follows`).
-/

namespace PluginOrder.Yaml.Node

open Read

variable {α β : Type} {tokens : List Token}

/-- What is left to read is an end of the tokens. -/
def Follows (tokens : List Token) (r : Reader) : Prop := r.tokens <:+ tokens

/-- A fault that nodes can have: tokens do not fit, or one of them tells of it. -/
def IsTold (tokens : List Token) (fault : Fault) : Prop :=
  fault = .malformed ∨ .broken fault ∈ tokens

/-- A step that reads on in the tokens, or fails with a fault that nodes can have. -/
abbrev Steps (tokens : List Token) (m : Read α) : Prop :=
  Keeps (Follows tokens) (IsTold tokens) (fun _ => True) m

theorem Steps.bind {m : Read α} {f : α → Read β} (hm : Steps tokens m)
    (hf : ∀ a, Steps tokens (f a)) : Steps tokens (m >>= f) := Keeps.bind hm fun a _ => hf a

theorem Steps.pure (a : α) : Steps tokens (Pure.pure a : Read α) := Keeps.pure trivial

theorem Steps.fail : Steps tokens (fail : Read α) := Keeps.throw (Or.inl rfl)

theorem Steps.get : Steps tokens (get : Read Reader) := Keeps.get.weaken fun _ _ => trivial

theorem Steps.update {f : Reader → Reader} (h : ∀ r, (f r).tokens = r.tokens) :
    Steps tokens (modify f : Read Unit) := by
  refine Keeps.update fun r hr => ?_
  rw [Follows, h]
  exact hr

theorem steps_peek : Steps tokens peek := by
  refine Keeps.bind Keeps.get fun r hr => ?_
  split
  · rename_i fault hhead
    exact Keeps.throw (Or.inr (hr.subset (List.mem_of_mem_head? hhead)))
  · exact Steps.pure _

theorem steps_drop : Steps tokens drop :=
  Keeps.update fun r hr => (List.tail_suffix r.tokens).trans hr

theorem steps_take? (token : Token) : Steps tokens (take? token) := by
  refine steps_peek.bind fun next => ?_
  split
  · exact steps_drop.bind fun _ => .pure _
  · exact .pure _

theorem steps_takeSeparator? (isFirst : Bool) : Steps tokens (takeSeparator? isFirst) := by
  unfold takeSeparator?
  split
  · exact .pure _
  · exact steps_take? _

theorem steps_isAt (ends : List Token) : Steps tokens (isAt ends) := by
  refine steps_peek.bind fun next => ?_
  split <;> exact .pure _

theorem steps_number (node : Node) : Steps tokens (number node) := fun _ hr => ⟨trivial, hr⟩

theorem steps_define (number : Nat) (node : Node) : Steps tokens (define number node) :=
  .update fun _ => rfl

theorem steps_setAnchor (anchor : Option String) (number : Nat) :
    Steps tokens (setAnchor anchor number) := by
  unfold setAnchor
  split
  · exact .pure _
  · exact .update fun _ => rfl

theorem steps_readProperties : Steps tokens readProperties := by
  refine steps_peek.bind fun next => ?_
  split
  · refine steps_drop.bind fun _ => steps_peek.bind fun next => ?_
    split
    · exact steps_drop.bind fun _ => .pure _
    · exact .pure _
  · refine steps_drop.bind fun _ => steps_peek.bind fun next => ?_
    split
    · exact steps_drop.bind fun _ => .pure _
    · exact .pure _
  · exact .pure _

theorem steps_tagName? (tag : Option WrittenTag) : Steps tokens (tagName? tag) := by
  unfold tagName?
  split
  · exact .pure _
  · exact .pure _
  · refine Steps.get.bind fun r => ?_
    split
    · exact .pure _
    · exact .fail

theorem steps_referent (name : String) : Steps tokens (referent name) := by
  refine Steps.get.bind fun r => ?_
  split
  · exact .pure _
  · exact .fail

theorem steps_readNothing (name : Option String) (hasProperties : Bool) :
    Steps tokens (readNothing name hasProperties) := by
  unfold readNothing
  split
  · exact .pure _
  · exact .fail

/-! ## Nodes and collections -/

-- the readers call each other with less fuel, so none of them is settled without the others
mutual

theorem steps_readNode (fuel : Nat) (context : Context) : Steps tokens (readNode fuel context) := by
  cases fuel with
  | zero => exact .fail
  | succ fuel =>
      simp only [readNode]
      refine steps_peek.bind fun next => ?_
      split
      · exact steps_drop.bind fun _ => steps_referent _
      · refine steps_readProperties.bind fun properties => (steps_tagName? _).bind fun name => ?_
        refine steps_peek.bind fun _ => Steps.get.bind fun r => ?_
        split
        · exact .fail
        · refine (steps_number _).bind fun number => (steps_setAnchor _ _).bind fun _ => ?_
          refine (steps_readContent fuel _ _ _).bind fun node => ?_
          exact (steps_define _ _).bind fun _ => .pure _

theorem steps_readContent (fuel : Nat) (context : Context) (name : Option String)
    (hasProperties : Bool) : Steps tokens (readContent fuel context name hasProperties) := by
  cases fuel with
  | zero => exact .fail
  | succ fuel =>
      simp only [readContent]
      refine steps_peek.bind fun next => ?_
      split
      · exact steps_drop.bind fun _ => .pure _
      · exact steps_drop.bind fun _ => (steps_readItems fuel true).bind fun _ => .pure _
      · exact steps_drop.bind fun _ => (steps_readEntries fuel true).bind fun _ => .pure _
      · split
        · exact steps_readNothing _ _
        · exact steps_drop.bind fun _ => (steps_readBlockItems fuel).bind fun _ => .pure _
      · split
        · exact steps_readNothing _ _
        · exact steps_drop.bind fun _ => (steps_readBlockEntries fuel).bind fun _ => .pure _
      · split
        · exact (steps_readLooseItems fuel).bind fun _ => .pure _
        · exact steps_readNothing _ _
      · exact steps_readNothing _ _

theorem steps_readBlockItems (fuel : Nat) : Steps tokens (readBlockItems fuel) := by
  cases fuel with
  | zero => exact .fail
  | succ fuel =>
      have hrest (item : Nat) : Steps tokens (do return item :: (← readBlockItems fuel)) :=
        (steps_readBlockItems fuel).bind fun _ => .pure _
      simp only [readBlockItems]
      refine (steps_take? _).bind fun _ => ?_
      split
      · refine (steps_isAt _).bind fun _ => ?_
        split
        · exact (steps_number _).bind hrest
        · exact (steps_readNode fuel _).bind hrest
      · refine (steps_take? _).bind fun _ => ?_
        split
        · exact .pure _
        · exact .fail

theorem steps_readLooseItems (fuel : Nat) : Steps tokens (readLooseItems fuel) := by
  cases fuel with
  | zero => exact .fail
  | succ fuel =>
      have hrest (item : Nat) : Steps tokens (do return item :: (← readLooseItems fuel)) :=
        (steps_readLooseItems fuel).bind fun _ => .pure _
      simp only [readLooseItems]
      refine (steps_take? _).bind fun _ => ?_
      split
      · refine (steps_isAt _).bind fun _ => ?_
        split
        · exact (steps_number _).bind hrest
        · exact (steps_readNode fuel _).bind hrest
      · exact .pure _

theorem steps_readBlockEntries (fuel : Nat) : Steps tokens (readBlockEntries fuel) := by
  cases fuel with
  | zero => exact .fail
  | succ fuel =>
      have hrest (key value : Nat) :
          Steps tokens (do return (key, value) :: (← readBlockEntries fuel)) :=
        (steps_readBlockEntries fuel).bind fun _ => .pure _
      simp only [readBlockEntries]
      refine (steps_take? _).bind fun _ => ?_
      split
      · refine (steps_readBlockPart fuel).bind fun key => (steps_take? _).bind fun _ => ?_
        split
        · exact (steps_readBlockPart fuel).bind (hrest key)
        · exact (steps_number _).bind (hrest key)
      · refine (steps_take? _).bind fun _ => ?_
        split
        · exact .pure _
        · exact .fail

theorem steps_readBlockPart (fuel : Nat) : Steps tokens (readBlockPart fuel) := by
  cases fuel with
  | zero => exact .fail
  | succ fuel =>
      simp only [readBlockPart]
      refine (steps_isAt _).bind fun _ => ?_
      split
      · exact steps_number _
      · exact steps_readNode fuel _

theorem steps_readItems (fuel : Nat) (isFirst : Bool) : Steps tokens (readItems fuel isFirst) := by
  cases fuel with
  | zero => exact .fail
  | succ fuel =>
      have hrest (item : Nat) : Steps tokens (do return item :: (← readItems fuel false)) :=
        (steps_readItems fuel false).bind fun _ => .pure _
      have hpair (key value : Nat) : Steps tokens (do
          let item ← number (.map .map [(key, value)])
          return item :: (← readItems fuel false)) := (steps_number _).bind hrest
      simp only [readItems]
      refine (steps_take? _).bind fun _ => ?_
      split
      · exact .pure _
      · refine (steps_takeSeparator? _).bind fun _ => ?_
        split
        · exact .fail
        · refine (steps_take? _).bind fun _ => ?_
          split
          · refine (steps_readFlowPart fuel _).bind fun key => (steps_take? _).bind fun _ => ?_
            split
            · exact (steps_readFlowPart fuel _).bind (hpair key)
            · exact (steps_number _).bind (hpair key)
          · refine (steps_take? _).bind fun _ => ?_
            split
            · exact .pure _
            · exact (steps_readNode fuel _).bind hrest

theorem steps_readEntries (fuel : Nat) (isFirst : Bool) :
    Steps tokens (readEntries fuel isFirst) := by
  cases fuel with
  | zero => exact .fail
  | succ fuel =>
      have hrest (key value : Nat) :
          Steps tokens (do return (key, value) :: (← readEntries fuel false)) :=
        (steps_readEntries fuel false).bind fun _ => .pure _
      simp only [readEntries]
      refine (steps_take? _).bind fun _ => ?_
      split
      · exact .pure _
      · refine (steps_takeSeparator? _).bind fun _ => ?_
        split
        · exact .fail
        · refine (steps_take? _).bind fun _ => ?_
          split
          · refine (steps_readFlowPart fuel _).bind fun key => (steps_take? _).bind fun _ => ?_
            split
            · exact (steps_readFlowPart fuel _).bind (hrest key)
            · exact (steps_number _).bind (hrest key)
          · refine (steps_take? _).bind fun _ => ?_
            split
            · exact .pure _
            · exact (steps_readNode fuel _).bind fun key => (steps_number _).bind (hrest key)

theorem steps_readFlowPart (fuel : Nat) (ends : List Token) :
    Steps tokens (readFlowPart fuel ends) := by
  cases fuel with
  | zero => exact .fail
  | succ fuel =>
      simp only [readFlowPart]
      refine (steps_isAt _).bind fun _ => ?_
      split
      · exact steps_number _
      · exact steps_readNode fuel _

end

/-! ## Documents -/

theorem steps_readDirectives (fuel : Nat) (versioned : Bool) (handles : List (String × String)) :
    Steps tokens (readDirectives fuel versioned handles) := by
  induction fuel generalizing versioned handles with
  | zero => exact .fail
  | succ fuel ih =>
      simp only [readDirectives]
      refine steps_peek.bind fun next => ?_
      split
      · refine steps_drop.bind fun _ => ?_
        split
        · split
          · exact .fail
          · exact ih _ _
        · split
          · exact .fail
          · exact ih _ _
        · exact ih _ _
      · exact .pure _

theorem steps_dropEnds (fuel : Nat) : Steps tokens (dropEnds fuel) := by
  induction fuel with
  | zero => exact .pure _
  | succ fuel ih =>
      simp only [dropEnds]
      refine (steps_take? _).bind fun _ => ?_
      split
      · exact ih
      · exact .pure _

theorem steps_readDocument (fuel : Nat) : Steps tokens (readDocument fuel) := by
  refine (steps_readDirectives fuel _ _).bind fun handles => ?_
  refine Steps.bind (.update fun _ => rfl) fun _ => (steps_take? .documentStart).bind fun _ => ?_
  split
  · exact .fail
  · refine steps_peek.bind fun next => ?_
    split
    · exact steps_number _
    · exact steps_number _
    · exact steps_number _
    · exact steps_number _
    · exact steps_readNode fuel _

theorem steps_failAtDocument (fuel : Nat) : Steps tokens (failAtDocument fuel) :=
  (steps_readDirectives fuel _ _).bind fun _ => steps_peek.bind fun _ => .fail

theorem steps_readStream (fuel : Nat) : Steps tokens (readStream fuel) := by
  refine (steps_take? _).bind fun _ => ?_
  split
  · exact steps_number _
  · refine steps_peek.bind fun next => ?_
    extract_lets finish
    have hfinish (root : Nat) : Steps tokens (finish root) := by
      refine (steps_dropEnds fuel).bind fun _ => (steps_take? _).bind fun _ => ?_
      dsimp only
      split
      · exact (steps_failAtDocument fuel).bind fun _ => .pure _
      · exact .pure _
    split
    · exact (steps_readDocument fuel).bind hfinish
    · exact (steps_readDocument fuel).bind hfinish
    · exact (steps_readNode fuel _).bind hfinish

/-- Tokens stand for no nodes only because they do not fit together, or because one of them tells of
a fault. -/
theorem isTold_of_ofTokens {fault : Fault} (h : ofTokens tokens = .error fault) :
    IsTold tokens fault := by
  have hstream : Steps tokens (readStream (4 * tokens.length + 4)) := steps_readStream _
  have hsteps := hstream ⟨tokens, usualHandles, [], #[]⟩ List.suffix_rfl
  exact (hsteps.map (q := fun _ => True) fun _ _ => trivial).fault h

end PluginOrder.Yaml.Node
