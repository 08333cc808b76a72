import PluginOrder.Decimal.Binary64
import PluginOrder.Document
import PluginOrder.Yaml.Node

/-!
# From nodes to documents

A draft is a document in the making.  A scalar is made whenever it is met; a collection is begun
when it is first met, named by the number of its node from then on, and filled when its turn comes.
Collections are filled in the order in which they were begun, which shows only in which of several
faults is found first.

A map takes in the maps that its merge keys lead to, its own entries going last, before it is
filled or merged into another one.
-/

namespace PluginOrder.Yaml

open Text (CodePoint)

/-- A document in the making. -/
structure Draft where
  /-- The nodes by their numbers.  Maps lose their merge keys on the way. -/
  nodes : Array Node
  /-- The collections that are filled, by the numbers of their nodes. -/
  collections : Array Value
  /-- Which collections are begun, by the numbers of their nodes. -/
  begun : Array Bool
  /-- The collections that are begun and not filled, the last one first. -/
  waiting : List Nat
  /-- How deep merges may be nested, since each of them takes a merge key away. -/
  depth : Nat

/-- The kinds that are collections. -/
def Tag.isCollection : Tag → Bool
  | .list | .map | .set | .orderedMap | .pairs => true
  | _ => false

/-- The number of parts of a node. -/
def Node.size : Node → Nat
  | .scalar _ _ => 0
  | .list _ items => items.length
  | .map _ entries => entries.length

/-- The text that stands for a node where a scalar is asked for: its own, or that of the default
entry of a map. -/
def scalarText? (nodes : Array Node) : Nat → Nat → Option (List CodePoint)
  | 0, _ => none
  | turns + 1, number =>
    match nodes[number]? with
    | some (.scalar _ text) => some text
    | some (.map _ entries) =>
      (entries.find? fun entry => (nodes[entry.1]?.map Node.tag) == some .default).bind
        fun entry => scalarText? nodes turns entry.2
    | some (.list _ _) | none => none

namespace Draft

/-- The draft of which nothing is made yet. -/
def ofNodes (nodes : Array Node) : Draft where
  nodes
  collections := Array.replicate nodes.size .null
  begun := Array.replicate nodes.size false
  waiting := []
  depth := 2 * nodes.foldl (fun n node => n + node.size) 2

/-- A step of making a document. -/
abbrev Make (α : Type) := StateT Draft (Except Fault) α

/-- The node with a number. -/
def node (number : Nat) : Make Node := do
  match (← get).nodes[number]? with
  | some node => return node
  | none => throw .malformed

/-- Puts a node in the place of the one with a number. -/
def setNode (number : Nat) (node : Node) : Make Unit :=
  modify fun d => { d with nodes := d.nodes.setIfInBounds number node }

/-! ### Merging -/

/-- The entries of a map. -/
def entries (number : Nat) : Make (List (Nat × Nat)) := do
  match ← node number with
  | .map _ entries => return entries
  | .scalar _ _ | .list _ _ => throw .malformed

/-- Changes the entries of a map. -/
def setEntries (number : Nat) (entries : List (Nat × Nat)) : Make Unit := do
  setNode number (.map (← node number).tag entries)

/-- Takes the first merge key out of a map, and answers what it leads to. -/
def takeMerge? (number : Nat) : Make (Option Nat) := do
  let nodes := (← get).nodes
  let all ← entries number
  let isMerge (entry : Nat × Nat) : Bool := (nodes[entry.1]?.map Node.tag) == some .merge
  match all.findIdx? isMerge with
  | none => return none
  | some position =>
    setEntries number (all.eraseIdx position)
    return (all[position]?).map Prod.snd

/-- Makes the default keys of a map texts. -/
def nameDefaults (number : Nat) : Make Unit := do
  for (key, _) in ← entries number do
    let keyNode ← node key
    if keyNode.tag = .default then setNode key (keyNode.withTag .text)

mutual

/-- Puts the entries that the merge keys of a map lead to in front of its own. -/
def merge : Nat → Nat → Make Unit
  | 0, _ => throw .malformed
  | depth + 1, number => do
    let merged ← takeMerges depth number
    setEntries number (merged ++ (← entries number))
    nameDefaults number

/-- Takes the merge keys out of a map, and answers the entries that they lead to.  Of a list of maps
the last one goes first. -/
def takeMerges : Nat → Nat → Make (List (Nat × Nat))
  | 0, _ => throw .malformed
  | depth + 1, number => do
    match ← takeMerge? number with
    | none => return []
    | some source =>
      let parts := match ← node source with
        | .list _ items => items
        | .map _ _ | .scalar _ _ => [source]
      let gathered ← parts.mapM fun part => do
        merge depth part
        entries part
      let others ← takeMerges depth number
      return gathered.reverse.flatten ++ others

end

/-! ### Keys -/

/-- A key of a map in the making. -/
structure Key where
  value : Value
  /-- The number of its node, unless it is spelled like all that is not a number. -/
  origin : Option Nat

/-- The size of a finite number as a fraction. -/
def sizeOf? : Value → Option Rat
  | .bool b => some (if b then 1 else 0)
  | .int n => some n
  | .float x =>
    (Binary64.magnitude? x).map fun size =>
      let n : Rat := (size.mantissa : Rat) * (2 : Rat) ^ size.exponent
      if Binary64.isNegative x then -n else n
  | _ => none

/-- Whether a value is the double that is not a number. -/
def isNaN : Value → Bool
  | .float x => !(x == x)
  | _ => false

/-- Whether two scalars are the same as keys of a map.  Numbers and flags count by their size; what
is not a number is the same only if it has the same origin. -/
def Key.agrees (a b : Key) : Bool :=
  match a.value, b.value with
  | .null, .null => true
  | .text s, .text t => s == t
  | .illFormed s, .illFormed t => s == t
  | .octets s, .octets t => s == t
  | .date d, .date e => d == e
  | .moment m, .moment n => m.agrees n
  | .float x, .float y => x == y || (isNaN a.value && isNaN b.value && a.origin == b.origin)
  | v, w =>
    match sizeOf? v, sizeOf? w with
    | some x, some y => x == y
    | _, _ => false

/-- Writes an entry: in place if the key is there, at the end otherwise. -/
def putEntry (key : Key) (value : Value) : List (Key × Value) → List (Key × Value)
  | [] => [(key, value)]
  | (k, old) :: rest =>
    if k.agrees key then (k, value) :: rest else (k, old) :: putEntry key value rest

/-! ### Filling -/

/-- Meets the node with a number: makes a scalar, and begins a collection. -/
def begin (number : Nat) : Make Value := do
  let node ← node number
  let d ← get
  if node.tag.isCollection then
    if !d.begun.getD number false then
      set { d with
        begun := d.begun.setIfInBounds number true
        waiting := number :: d.waiting }
    return .shared number
  else
    match node, scalarText? d.nodes (d.nodes.size + 1) number with
    | _, none => throw .malformed
    | .scalar tag _, some text => readScalar tag text
    | .map .timestamp _, some _ => throw .stampedMap
    | node, some text => readScalar node.tag text

/-- Meets the key of a map, which can be no collection. -/
def beginKey (number : Nat) : Make Key := do
  match ← begin number with
  | .shared _ => throw .malformed
  | value =>
    let d ← get
    let isCommon := (scalarText? d.nodes (d.nodes.size + 1) number).any fun text =>
      (fractionBody text).2 == notANumber
    return ⟨value, if isCommon then none else some number⟩

/-- Meets the entries of a map, later ones replacing earlier ones of the same key. -/
def beginEntries (number : Nat) : Make (List (Value × Value)) := do
  let _ ← entries number
  merge (← get).depth number
  let mut made : List (Key × Value) := []
  for (key, value) in ← entries number do
    let key ← beginKey key
    let value ← begin value
    made := putEntry key value made
  return made.map fun (key, value) => (key.value, value)

/-- Meets a map with one entry as a key with its value. -/
def beginPair (number : Nat) : Make Value := do
  match ← entries number with
  | [(key, value)] =>
    let key ← begin key
    return .pair key (← begin value)
  | _ => throw .malformed

/-- The items of a list. -/
def items (number : Nat) : Make (List Nat) := do
  match ← node number with
  | .list _ items => return items
  | .scalar _ _ | .map _ _ => throw .malformed

/-- Fills the collection with a number. -/
def fill (number : Nat) : Make Unit := do
  let value ← match (← node number).tag with
    | .list => pure (.list (← (← items number).mapM begin))
    | .map => pure (.map (← beginEntries number))
    | .set => pure (.set ((← beginEntries number).map Prod.fst))
    | .orderedMap | .pairs => pure (.list (← (← items number).mapM beginPair))
    | _ => throw .malformed
  modify fun d => { d with collections := d.collections.setIfInBounds number value }

/-- Fills the collections that wait, then those that were begun on the way, and so on.  Every turn
but the last one fills a collection, so the number of nodes bounds the turns. -/
def fillAll : Nat → Make Unit
  | 0 => throw .malformed
  | turns + 1 => do
    let waiting := (← get).waiting.reverse
    if waiting.isEmpty then return
    modify fun d => { d with waiting := [] }
    waiting.forM fill
    fillAll turns

/-- Makes the document whose outermost node has a number. -/
def finish (root : Nat) : Make Value := do
  let value ← begin root
  fillAll ((← get).nodes.size + 2)
  return value

end Draft

/-- The document that nodes stand for. -/
def NodeTable.document (table : NodeTable) : Except Fault Document :=
  ((Draft.finish table.root).run (.ofNodes table.nodes)).map fun (root, d) => ⟨root, d.collections⟩

end PluginOrder.Yaml
