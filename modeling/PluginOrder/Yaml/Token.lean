import PluginOrder.Yaml.Fault

/-!
# Tokens of YAML

The tokens of a text.  Indentation is told by tokens of its own: a block begins with a start token
and ends with `blockEnd`.
-/

namespace PluginOrder.Yaml

/-- A tag as it is written: the handle, unless the tag is written out in full, and the rest. -/
structure WrittenTag where
  handle : Option String
  suffix : String
  deriving DecidableEq, Repr

/-- An instruction in front of a document. -/
inductive Directive where
  | version (major : Nat)
  | tag (handle tagStart : String)
  | unknown
  deriving DecidableEq, Repr

/-- A token. -/
inductive Token where
  | directive (directive : Directive)
  | documentStart
  | documentEnd
  | blockListStart
  | blockMapStart
  | blockEnd
  | listStart
  | listEnd
  | mapStart
  | mapEnd
  | entry
  | blockEntry
  | key
  | value
  | reference (name : String)
  | anchor (name : String)
  | tag (tag : WrittenTag)
  | scalar (text : List Text.CodePoint) (plain : Bool)
  | streamEnd
  /-- The text cannot be read any further. -/
  | broken (fault : Fault)
  deriving DecidableEq, Repr

end PluginOrder.Yaml
