import PluginOrder.Yaml.Scalar
import PluginOrder.Yaml.Token.Lexer

/-!
# Nodes of YAML

The nodes that a stream of tokens stands for.  Every node has a number, and a collection holds its
parts by their numbers: a reference is the number of the node that it refers to, so a node may
stand at several places, also inside itself.

A stream holds no document, which is an empty node, or exactly one.
-/

namespace PluginOrder.Yaml

/-- A node of a document, with the tag that is written or that its text suggests. -/
inductive Node where
  | scalar (tag : Tag) (text : List Text.CodePoint)
  | list (tag : Tag) (items : List Nat)
  | map (tag : Tag) (entries : List (Nat × Nat))

/-- The nodes of a document by their numbers, and the number of the outermost one. -/
structure NodeTable where
  nodes : Array Node
  root : Nat

namespace Node

/-- The node of something that is left out. -/
def absent : Node := .scalar .null []

instance : Inhabited Node := ⟨absent⟩

/-- The tag of a node. -/
def tag : Node → Tag
  | .scalar tag _ => tag
  | .list tag _ => tag
  | .map tag _ => tag

/-- The node with another tag. -/
def withTag (tag : Tag) : Node → Node
  | .scalar _ text => .scalar tag text
  | .list _ items => .list tag items
  | .map _ entries => .map tag entries

/-- What the reader of nodes knows and has yet to read. -/
structure Reader where
  tokens : List Token
  /-- The beginnings of tags that handles stand for. -/
  handles : List (String × String)
  /-- The numbers of the nodes with an anchor. -/
  anchors : List (String × Nat)
  /-- The nodes by their numbers.  While one is being read, an empty one stands for it. -/
  nodes : Array Node

/-- A step of reading nodes. -/
abbrev Read (α : Type) := StateT Reader (Except Fault) α

namespace Read

/-- The next token, if the text can be read that far. -/
def peek : Read (Option Token) := do
  match (← get).tokens.head? with
  | some (.broken fault) => throw fault
  | token => return token

/-- Passes over a token. -/
def drop : Read Unit := modify fun r => { r with tokens := r.tokens.tail }

/-- Fails, since the next token does not fit. -/
def fail {α : Type} : Read α := throw .malformed

/-- Passes over a token if it is the next one. -/
def take? (token : Token) : Read Bool := do
  if (← peek) == some token then
    drop
    return true
  else return false

/-- Passes over the comma in front of an item, if it is there; the first item needs none. -/
def takeSeparator? (isFirst : Bool) : Read Bool :=
  if isFirst then return true else take? .entry

/-- Whether the next token is one of some. -/
def isAt (tokens : List Token) : Read Bool := do
  match ← peek with
  | some token => return tokens.contains token
  | none => return false

/-- The number of a new node. -/
def number (node : Node) : Read Nat :=
  modifyGet fun r => (r.nodes.size, { r with nodes := r.nodes.push node })

/-- Puts a node in the place of the one with a number. -/
def define (number : Nat) (node : Node) : Read Unit :=
  modify fun r => { r with nodes := r.nodes.setIfInBounds number node }

/-- Registers an anchor of the node with a number. -/
def setAnchor (anchor : Option String) (number : Nat) : Read Unit :=
  match anchor with
  | none => return
  | some name => modify fun r => { r with anchors := (name, number) :: r.anchors }

end Read

open Read

/-! ### Properties -/

/-- The anchor and the tag of a node, in either order. -/
def readProperties : Read (Option String × Option WrittenTag) := do
  match ← peek with
  | some (.anchor name) =>
    drop
    match ← peek with
    | some (.tag tag) =>
      drop
      return (some name, some tag)
    | _ => return (some name, none)
  | some (.tag tag) =>
    drop
    match ← peek with
    | some (.anchor name) =>
      drop
      return (some name, some tag)
    | _ => return (none, some tag)
  | _ => return (none, none)

/-- The name of a written tag; none stands for the tag that leaves the choice open. -/
def tagName? (tag : Option WrittenTag) : Read (Option String) := do
  match tag with
  | none => return none
  | some ⟨none, suffix⟩ => return some suffix
  | some ⟨some handle, suffix⟩ =>
    match (← get).handles.lookup handle with
    | some start => return some (start ++ suffix)
    | none => fail

/-- The tag of a collection. -/
def collectionTag (name : Option String) (usual : Tag) : Tag :=
  match name with
  | none => usual
  | some name => if name = "!" then usual else Tag.ofName name

/-- The tag of a scalar: the one that is written, or the one that the text suggests if the scalar
is plain or the choice is left open by a tag. -/
def scalarTag (name : Option String) (plain : Bool) (text : List Text.CodePoint) : Tag :=
  match name with
  | none => if plain then Tag.ofPoints text else .text
  | some name => if name = "!" then Tag.ofPoints text else Tag.ofName name

/-- The number of the node that a reference stands for. -/
def referent (name : String) : Read Nat := do
  match (← get).anchors.lookup name with
  | some number => return number
  | none => fail

/-! ### Collections -/

/-- Where a node stands, which decides what kinds of block may begin there. -/
inductive Context where
  /-- Inside brackets no block begins. -/
  | brackets
  /-- Every block begins. -/
  | block
  /-- A list may also begin without being indented. -/
  | mapEntry
  deriving DecidableEq

/-- A node without content, which only its properties can tell. -/
def readNothing (name : Option String) (hasProperties : Bool) : Read Node := do
  if hasProperties then return .scalar (scalarTag name (name.isNone) []) []
  else fail

mutual

/-- Reads a node, and answers its number.  An anchor that is taken is found when the content
begins. -/
def readNode : Nat → Context → Read Nat
  | 0, _ => fail
  | fuel + 1, context => do
    match ← peek with
    | some (.reference name) =>
      drop
      referent name
    | _ =>
      let (anchor, tag) ← readProperties
      let name ← tagName? tag
      let _ ← peek
      let known := (← get).anchors
      if anchor.any fun a => (known.lookup a).isSome then fail
      else
        let number ← number absent
        setAnchor anchor number
        define number (← readContent fuel context name (anchor.isSome || tag.isSome))
        return number

/-- Reads a node behind its properties. -/
def readContent : Nat → Context → Option String → Bool → Read Node
  | 0, _, _, _ => fail
  | fuel + 1, context, name, hasProperties => do
    match ← peek with
    | some (.scalar text plain) =>
      drop
      return .scalar (scalarTag name plain text) text
    | some .listStart =>
      drop
      return .list (collectionTag name .list) (← readItems fuel true)
    | some .mapStart =>
      drop
      return .map (collectionTag name .map) (← readEntries fuel true)
    | some .blockListStart =>
      if context = .brackets then readNothing name hasProperties
      else
        drop
        return .list (collectionTag name .list) (← readBlockItems fuel)
    | some .blockMapStart =>
      if context = .brackets then readNothing name hasProperties
      else
        drop
        return .map (collectionTag name .map) (← readBlockEntries fuel)
    | some .blockEntry =>
      if context = .mapEntry then
        return .list (collectionTag name .list) (← readLooseItems fuel)
      else readNothing name hasProperties
    | _ => readNothing name hasProperties

/-- Reads the entries of a block list and its end. -/
def readBlockItems : Nat → Read (List Nat)
  | 0 => fail
  | fuel + 1 => do
    if ← take? .blockEntry then
      let item ← if ← isAt [.blockEntry, .blockEnd] then number absent else readNode fuel .block
      return item :: (← readBlockItems fuel)
    else if ← take? .blockEnd then return []
    else fail

/-- Reads the entries of a list that is not indented. -/
def readLooseItems : Nat → Read (List Nat)
  | 0 => fail
  | fuel + 1 => do
    if ← take? .blockEntry then
      let item ← if ← isAt [.blockEntry, .key, .value, .blockEnd] then number absent
        else readNode fuel .block
      return item :: (← readLooseItems fuel)
    else return []

/-- Reads the entries of a block of keys and its end. -/
def readBlockEntries : Nat → Read (List (Nat × Nat))
  | 0 => fail
  | fuel + 1 => do
    if ← take? .key then
      let key ← readBlockPart fuel
      let value ← if ← take? .value then readBlockPart fuel else number absent
      return (key, value) :: (← readBlockEntries fuel)
    else if ← take? .blockEnd then return []
    else fail

/-- Reads a key or a value in a block, which may be left out. -/
def readBlockPart : Nat → Read Nat
  | 0 => fail
  | fuel + 1 => do
    if ← isAt [.key, .value, .blockEnd] then number absent
    else readNode fuel .mapEntry

/-- Reads the items of a list in brackets and its end. -/
def readItems : Nat → Bool → Read (List Nat)
  | 0, _ => fail
  | fuel + 1, isFirst => do
    if ← take? .listEnd then return []
    else if !(← takeSeparator? isFirst) then fail
    else if ← take? .key then
      let key ← readFlowPart fuel [.value, .entry, .listEnd]
      let value ← if ← take? .value then readFlowPart fuel [.entry, .listEnd] else number absent
      let item ← number (.map .map [(key, value)])
      return item :: (← readItems fuel false)
    else if ← take? .listEnd then return []
    else
      let item ← readNode fuel .brackets
      return item :: (← readItems fuel false)

/-- Reads the entries of a map in braces and its end. -/
def readEntries : Nat → Bool → Read (List (Nat × Nat))
  | 0, _ => fail
  | fuel + 1, isFirst => do
    if ← take? .mapEnd then return []
    else if !(← takeSeparator? isFirst) then fail
    else if ← take? .key then
      let key ← readFlowPart fuel [.value, .entry, .mapEnd]
      let value ← if ← take? .value then readFlowPart fuel [.entry, .mapEnd] else number absent
      return (key, value) :: (← readEntries fuel false)
    else if ← take? .mapEnd then return []
    else
      let key ← readNode fuel .brackets
      let value ← number absent
      return (key, value) :: (← readEntries fuel false)

/-- Reads a key or a value inside brackets, which is left out if one of some tokens follows. -/
def readFlowPart : Nat → List Token → Read Nat
  | 0, _ => fail
  | fuel + 1, ends => do
    if ← isAt ends then number absent else readNode fuel .brackets

end

/-! ### Documents -/

/-- The handles that need no directive. -/
def usualHandles : List (String × String) := [("!", "!"), ("!!", "tag:yaml.org,2002:")]

/-- Reads the directives in front of a document; `versioned` tells whether one gave a version. -/
def readDirectives : Nat → Bool → List (String × String) → Read (List (String × String))
  | 0, _, _ => fail
  | fuel + 1, versioned, handles => do
    match ← peek with
    | some (.directive directive) =>
      drop
      match directive with
      | .version major =>
        if versioned || major != 1 then fail
        else readDirectives fuel true handles
      | .tag handle tagStart =>
        if (handles.lookup handle).isSome then fail
        else readDirectives fuel versioned (handles ++ [(handle, tagStart)])
      | .unknown => readDirectives fuel versioned handles
    | _ => return handles

/-- Passes over markers of the end of a document. -/
def dropEnds : Nat → Read Unit
  | 0 => return
  | fuel + 1 => do if ← take? .documentEnd then dropEnds fuel

/-- Reads the node of a document behind its directives. -/
def readDocument (fuel : Nat) : Read Nat := do
  let handles ← readDirectives fuel false []
  modify fun r => { r with handles := handles ++ usualHandles }
  if !(← take? .documentStart) then fail
  else
    match ← peek with
    | some (.directive _) | some .documentStart | some .documentEnd | some .streamEnd =>
      number absent
    | _ => readNode fuel .block

/-- Fails at a second document, which begins with directives and a marker. -/
def failAtDocument (fuel : Nat) : Read Unit := do
  let _ ← readDirectives fuel false []
  let _ ← peek
  fail

/-- Reads the only document of a stream. -/
def readStream (fuel : Nat) : Read Nat := do
  if ← take? .streamEnd then number absent
  else
    let root ← match ← peek with
      | some (.directive _) | some .documentStart => readDocument fuel
      | _ => readNode fuel .block
    dropEnds fuel
    if !(← take? .streamEnd) then failAtDocument fuel
    return root

/-- The nodes of the tokens of a stream.  Every call takes a token, or is one of at most three in a
row that take none. -/
def ofTokens (tokens : List Token) : Except Fault NodeTable :=
  ((readStream (4 * tokens.length + 4)).run ⟨tokens, usualHandles, [], #[]⟩).map
    fun (root, r) => ⟨r.nodes, root⟩

end Node

end PluginOrder.Yaml
