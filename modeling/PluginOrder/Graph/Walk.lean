import PluginOrder.Graph.Basic
import PluginOrder.Journal.Event

/-!
# Sorting the graph

The walk goes through the graph depth first, from providers to dependents, with the nodes on its
way on a stack.  It visits every node at least once, and a second time if a node that was left as
valid turns out to depend on something that is not.

* A node that is left as valid is put in front of the order, so providers come before what
  depends on them.
* A link is bad if its edge is invalid or its provider is; a node entered by a bad link is
  rejected, and so is, through it, all that depends on it.
* A node that asks for a visit while the walk is still on it closes a cycle, and the walk halts.

One turn of the loop is `step`.  `potential` falls with every turn, so as many turns as it says
finish a visit, and further turns change nothing.
-/

namespace PluginOrder

/-- A node on the way of the walk, and the number of its edges that were taken. -/
structure Frame where
  key : String
  next : Nat
  deriving DecidableEq, Repr

/-- The state of the walk. -/
structure Walk where
  nodes : Graph
  /-- The nodes on the way, the innermost first. -/
  stack : List Frame
  /-- The identifiers left as valid, the latest first. -/
  finished : List String
  rejects : Ledger Rejection
  journal : List Event

/-- Why a walk halts. -/
inductive WalkFault where
  /-- The identifiers on a cycle, the first one repeated at the end. -/
  | cycle (ids : List String)
  /-- An edge leads to an identifier that has no node. -/
  | unknownImporter (key : String)
  /-- A node was left as invalid without a reason. -/
  | unjustified
  /-- A node is marked as being on the way, but it is not on the stack. -/
  | strayMark (id : String)
  deriving DecidableEq, Repr

/-- A fault and the state in which it arose. -/
structure Halt where
  fault : WalkFault
  walk : Walk

/-- The reason that an edge hands on: its own error if it has one, else the failure of its
provider. -/
def linkError (node : Node) (edge : Edge) : Option Rejection :=
  if edge.valid then
    if node.valid then none
    else some ⟨.requiredPluginFailedToLoad, edge.provider, none, .null⟩
  else edge.error

namespace Walk

/-- The walk before its first visit. -/
def start (g : Graph) : Walk := ⟨g, [], [], ∅, []⟩

/-- Reports an event. -/
def report (w : Walk) (event : Event) : Walk := { w with journal := w.journal ++ [event] }

/-- The identifier of the node under a key. -/
def idOf (w : Walk) (key : String) : String :=
  match w.nodes.get? key with
  | some node => node.id
  | none => key

/-- The identifiers on the way, the outermost first. -/
def way (w : Walk) : List String := (w.stack.map fun frame => w.idOf frame.key).reverse

/-- Halts at a node that is already on the way. -/
def haltAt (w : Walk) (id : String) : Halt :=
  let onWay := w.way.dropWhile (· != id)
  if onWay.isEmpty then ⟨.strayMark id, w⟩
  else
    let cycle := onWay ++ [id]
    ⟨.cycle cycle, w.report (.cycleFound cycle)⟩

/-- Follows a link into the node under a key. -/
def enter (w : Walk) (key : String) (valid : Bool) (error : Option Rejection) :
    Except Halt Walk :=
  match w.nodes.get? key with
  | none => .error ⟨.unknownImporter key, w⟩
  | some node =>
    if !node.needsVisit valid then .ok w
    else if node.visiting then .error (w.haltAt node.id)
    else
      .ok { w with
        nodes := w.nodes.modify key fun node => { node with visiting := true, valid, error }
        stack := ⟨key, 0⟩ :: w.stack }

/-- Leaves the node under a key, which was taken off the stack. -/
def leave (w : Walk) (key : String) (node : Node) : Except Halt Walk :=
  let w := { w with
    nodes := w.nodes.modify key fun node => { node with visiting := false, visited := true } }
  if node.valid then .ok { w with finished := node.id :: w.finished }
  else
    match node.error with
    | none => .error ⟨.unjustified, w⟩
    | some reason =>
      .ok { w.report (.nodeRejected node.id reason.status reason.plugin) with
        rejects := w.rejects.insert node.id reason }

/-- One turn: the innermost node takes its next edge, or is left after its last one. -/
def step (w : Walk) : Except Halt Walk :=
  match w.stack with
  | [] => .ok w
  | frame :: below =>
    match w.nodes.get? frame.key with
    | none => .ok { w with stack := below }
    | some node =>
      match node.dependents[frame.next]? with
      | some edge =>
        enter { w with stack := { frame with next := frame.next + 1 } :: below } edge.importer
          (node.valid && edge.valid) (linkError node edge)
      | none => leave { w with stack := below } frame.key node

/-- How often a node can still be entered. -/
def credit (node : Node) : Nat :=
  if !node.visited && !node.visiting then 2 else if node.valid then 1 else 0

/-- A bound on the turns that are left: every visit to come costs a turn per edge and one to
leave, and so does the rest of every visit on the way. -/
def potential (w : Walk) : Nat :=
  (w.nodes.values.map fun node => credit node * (node.dependents.length + 1)).foldr (· + ·) 0 +
    (w.stack.map fun frame =>
      match w.nodes.get? frame.key with
      | some node => node.dependents.length - frame.next + 1
      | none => 1).foldr (· + ·) 0

/-- Takes turns until the stack is empty, or until the fuel is gone. -/
def drainFor : Nat → Walk → Except Halt Walk
  | 0, w => .ok w
  | fuel + 1, w =>
    match w.stack with
    | [] => .ok w
    | _ :: _ =>
      match w.step with
      | .ok w => drainFor fuel w
      | .error halt => .error halt

/-- Takes turns until the stack is empty. -/
def drain (w : Walk) : Except Halt Walk := drainFor w.potential w

/-- Visits the node under a key as a root. -/
def visit (w : Walk) (key : String) : Except Halt Walk :=
  match w.enter key true none with
  | .ok w => w.drain
  | .error halt => .error halt

/-- Visits roots one after the other. -/
def visitAll : List String → Walk → Except Halt Walk
  | [], w => .ok w
  | key :: rest, w =>
    match w.visit key with
    | .ok w => visitAll rest w
    | .error halt => .error halt

end Walk

/-- Walks through a graph, with every node as a root, in the order of the graph. -/
def Graph.sort (g : Graph) : Except Halt Walk := (Walk.start g).visitAll g.keys

end PluginOrder
