import PluginOrder.Proofs.Resolution.Telling
import PluginOrder.Proofs.Value.Parts

/-!
# How a resolution ends

A walk looks things up that are only there by agreement: the node that an edge leads to, the reason
of a negative verdict, a marked node among those on its way.  Graph and walk keep this agreement
between them.  Building a graph gives every importer a node and every invalid edge a reason, and a
walk hands a reason on along every bad link, marks a node as it puts it on its way, and takes the
mark away as it leaves.

`Sound` says that nothing a walk will look for is missing.  It holds in every state of every walk
over an untouched graph, second visits included (`Reaches.sound`), and a walk in a sound state can
halt only by meeting a node that it stands on (`Sound.cycle_of_stop`).  Whatever the plugins and
whatever has been put in the place of their ranges, a walk therefore comes to its end or to a cycle.

What it has found may still be kept from the caller.  A range that was replaced by a number with too
many digits has no text, and a resolution that rejects its plugin for it breaks off while it tells
of the reject (`not_returns_overwritten`).  There is no third way in which it fails
(`ends_of_resolve`).
-/

namespace PluginOrder

/-- Nothing that a walk looks for is missing. -/
structure Walk.Sound (w : Walk) : Prop where
  /-- Frames belong to nodes. -/
  frame_mem : ∀ frame ∈ w.stack, frame.key ∈ w.nodes.keys
  /-- Edges lead to nodes. -/
  importer_mem : ∀ {key : String} {node : Node}, w.nodes.get? key = some node →
    ∀ edge ∈ node.dependents, edge.importer ∈ w.nodes.keys
  /-- A negative verdict has a reason. -/
  error_ne_none : ∀ {key : String} {node : Node}, w.nodes.get? key = some node →
    node.valid = false → node.error ≠ none
  /-- A marked node is on the way. -/
  id_mem_way : ∀ {key : String} {node : Node}, w.nodes.get? key = some node →
    node.visiting = true → node.id ∈ w.way

namespace Walk

variable {w : Walk}

theorem Link.mem_keys_of_sound {key : String} {valid : Bool} {error : Option Rejection}
    (hlink : w.Link key valid error) (h : w.Sound) : key ∈ w.nodes.keys := by
  cases hlink with
  | root _ hkey => exact hkey
  | edge _ hnode hedge => exact h.importer_mem hnode _ (List.mem_of_getElem? hedge)

theorem way_advance (w : Walk) : w.advance.way = w.way := by
  unfold advance
  split
  · rfl
  · rename_i frame below hstack
    simp only [way, idOf, hstack, List.map_cons]

/-- The search for a node that is on the way succeeds. -/
theorem fault_haltAt {id : String} (hmem : id ∈ w.way) :
    ∃ ids, (w.haltAt id).fault = .cycle ids := by
  obtain ⟨rest, hcut⟩ := dropWhile_of_mem hmem
  exact ⟨id :: rest ++ [id], by simp [haltAt, hcut]⟩

/-- **A walk in a sound state halts only at a cycle.** -/
theorem Sound.cycle_of_stop (h : w.Sound) {halt : Halt} (hstop : w.Stop halt) :
    ∃ ids, halt.fault = .cycle ids := by
  cases hstop with
  | unknown hlink htarget =>
      have hkey := hlink.mem_keys_of_sound h
      exact absurd hkey (Ledger.get?_eq_none_iff.mp htarget)
  | @again key valid error target hlink htarget _ hvisiting =>
      have hway : target.id ∈ w.advance.way := by
        rw [way_advance]
        exact h.id_mem_way htarget hvisiting
      exact fault_haltAt hway
  | unjustified _ hnode _ hvalid hreason =>
      exact absurd hreason (h.error_ne_none hnode hvalid)

end Walk

/-- **Every state of a walk is sound.** -/
theorem Graph.Reaches.sound {g : Graph} {w : Walk} (hreaches : g.Reaches w) (hg : g.Untouched) :
    w.Sound := by
  have htrail := hreaches.trail hg
  constructor
  case frame_mem =>
    intro frame hframe
    exact htrail.known frame.key (List.mem_map_of_mem (f := (·.key)) hframe)
  case importer_mem =>
    intro key node hnode edge hedge
    obtain ⟨node₀, hnode₀, _, hsame⟩ := htrail.shape.of_get? hnode
    exact htrail.shape.mem_keys.mpr (hg.importer_mem hnode₀ edge (hsame ▸ hedge))
  case error_ne_none => exact htrail.error_ne_none
  case id_mem_way =>
    intro key node hnode hvisiting
    -- a node is marked if and only if it is on the way
    have hmem := (htrail.visiting_iff hnode).mp hvisiting
    rw [htrail.id_eq hg hnode, Walk.way_eq hg htrail]
    exact List.mem_reverse.mpr hmem

namespace Catalog

/-- How a resolution ends for its caller.  It gives what a walk has found that came to its end, or
the cycle at which a walk has halted; or the walk came to its end, but one of the rejects cannot be
told of, since its plugin has an import from a registered plugin with a range that has no text. -/
inductive Ends (c : Config) (catalog : Catalog) : Except ResolutionFault Resolution → Prop
  | returned {w : Walk} (hreaches : (catalog.buildGraph c).graph.Reaches w) (hdone : w.stack = [])
      (htold : ((catalog.rebind c).collect w).untold? = none) :
      Ends c catalog (.ok ((catalog.rebind c).collect w))
  | cycle {w : Walk} {halt : Halt} {ids : List String}
      (hreaches : (catalog.buildGraph c).graph.Reaches w) (hstop : w.Stop halt)
      (hfault : halt.fault = .cycle ids) : Ends c catalog (.error (.walk (.cycle ids)))
  | untold {w : Walk} {reject : Reject} {p provider : Plugin} {i : Import}
      (hreaches : (catalog.buildGraph c).graph.Reaches w) (hdone : w.stack = [])
      (huntold : ((catalog.rebind c).collect w).untold? = some reject)
      (hp : catalog.get? reject.key = some p) (hi : i ∈ p.imports)
      (hprovider : catalog.get? i.sourcePlugin = some provider)
      (hrange : i.versionRange.display? = none)
      (hreason : reject.reason =
        ⟨.invalidRequiredVersionRange, provider.identifier, none, i.versionRange⟩) :
      Ends c catalog (.error (.untold reject))

/-- What is decided is what a walk has found that came to its end, or the cycle at which one
halted. -/
theorem walk_of_result (c : Config) (catalog : Catalog) :
    (∃ w, (catalog.buildGraph c).graph.Reaches w ∧ w.stack = [] ∧
        (catalog.resolve c).result = .ok ((catalog.rebind c).collect w)) ∨
      ∃ w halt ids, (catalog.buildGraph c).graph.Reaches w ∧ w.Stop halt ∧
        halt.fault = .cycle ids ∧ (catalog.resolve c).result = .error (.cycle ids) := by
  rw [result_resolve]
  cases hsort : (catalog.buildGraph c).graph.sort with
  | ok w =>
      obtain ⟨hreaches, hstack, _⟩ := Graph.sort_ok hsort
      exact Or.inl ⟨w, hreaches, hstack, rfl⟩
  | error halt =>
      obtain ⟨w, hreaches, hstop⟩ := Graph.sort_error hsort
      have hsound := hreaches.sound (untouched_buildGraph c catalog)
      obtain ⟨ids, hfault⟩ := hsound.cycle_of_stop hstop
      exact Or.inr ⟨w, halt, ids, hreaches, hstop, hfault, congrArg Except.error hfault⟩

/-- **How a resolution ends.**  It returns, or it reports a cycle, or a reject in it cannot be told
of; this last end is not possible if every range has a text.  In no state of a walk over the graph
of the catalogue is anything missing that the walk looks for, or another reason to halt than a
cycle. -/
theorem ends_of_resolve (c : Config) (catalog : Catalog) :
    Ends c catalog (catalog.resolve c).answer ∧
      (catalog.Legible → ∀ reject, (catalog.resolve c).answer ≠ .error (.untold reject)) ∧
      ∀ w, (catalog.buildGraph c).graph.Reaches w →
        w.Sound ∧ ∀ halt, w.Stop halt → ∃ ids, halt.fault = .cycle ids := by
  refine ⟨?_, ?_, fun w hreaches => ?_⟩
  · rcases walk_of_result c catalog with ⟨w, hreaches, hdone, hresult⟩ |
        ⟨w, halt, ids, hreaches, hstop, hfault, hresult⟩
    · cases huntold : ((catalog.rebind c).collect w).untold? with
      | none =>
          rw [Run.answer_eq_ok_iff.mpr ⟨hresult, huntold⟩]
          exact .returned hreaches hdone huntold
      | some reject =>
          -- such a reject has failed itself, at an import whose range has no text
          have hmem : reject ∈ ((catalog.rebind c).collect w).rejects :=
            List.mem_of_find?_eq_some huntold
          have hnone := (Resolution.untold?_eq_some_iff.mp huntold).1
          obtain ⟨p, hp, i, hi, hrange, provider, hprovider, hreason⟩ :=
            illegible_of_reject hresult hmem hnone
          rw [Run.answer_eq_untold_iff.mpr ⟨_, hresult, huntold⟩]
          exact .untold hreaches hdone huntold hp hi hprovider hrange hreason
    · rw [Run.answer_eq_walk_iff.mpr hresult]
      exact .cycle hreaches hstop hfault
  · intro hlegible reject
    rw [answer_of_legible hlegible]
    cases (catalog.resolve c).result <;> simp [Except.mapError]
  · have hsound := hreaches.sound (untouched_buildGraph c catalog)
    exact ⟨hsound, fun halt => hsound.cycle_of_stop⟩

/-- A catalogue in which a number was put in the place of a range. -/
def overwritten (n : Int) : Catalog where
  entries := [("a", ⟨"a", none, [], []⟩),
    ("b", ⟨"b", none, [], [⟨"a", "s", "s", .int n, none⟩]⟩)]
  nodup_keys := (by decide : ["a", "b"].Nodup)

/-- A number with too many digits breaks the resolution off, though everything has been decided. -/
theorem answer_overwritten {n : Int} (hn : 10 ^ Text.maxDigits ≤ n.natAbs) :
    ∃ reject, ((overwritten n).resolve .default).answer = .error (.untold reject) ∧
      reject.key = "b" ∧ reject.reason = ⟨.invalidRequiredVersionRange, "a", none, .int n⟩ := by
  have hnone : (Value.int n).display? = none := Value.displayInt?_eq_none_iff.mpr hn
  refine ⟨⟨"b", _, ⟨"b", none, [], [⟨"a", "s", "s", .int n, none⟩]⟩⟩,
    Run.answer_eq_untold_iff.mpr ⟨_, rfl, ?_⟩, rfl, rfl⟩
  exact Resolution.untold?_eq_some_iff.mpr ⟨hnone, [], [], rfl, List.forall_mem_nil _⟩

/-- The resolution neither returns nor reports a cycle, since it cannot write the number. -/
theorem not_returns_overwritten :
    ¬ ((∃ r, ((overwritten (10 ^ Text.maxDigits)).resolve .default).answer = .ok r) ∨
      ∃ ids, ((overwritten (10 ^ Text.maxDigits)).resolve .default).answer =
        .error (.walk (.cycle ids))) := by
  have hsize (k : Nat) : 10 ^ k ≤ ((10 : Int) ^ k).natAbs := Nat.le_of_eq (Int.natAbs_pow 10 k).symm
  obtain ⟨reject, hanswer, -, -⟩ := answer_overwritten (hsize Text.maxDigits)
  rw [hanswer]
  rintro (⟨r, hreturned⟩ | ⟨ids, hcycle⟩)
  · cases hreturned
  · cases hcycle

end Catalog

end PluginOrder
