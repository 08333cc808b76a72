/-!
# Tags

What a node of a YAML document is said to be.
-/

namespace PluginOrder.Yaml

/-- The kind of a node. -/
inductive Tag where
  | null
  | flag
  | integer
  | decimal
  | text
  | octets
  | timestamp
  | list
  | map
  | set
  /-- A map whose keys are ordered. -/
  | orderedMap
  /-- A list of keys with their values. -/
  | pairs
  /-- The key of a map whose value is the map itself, as far as scalars go. -/
  | default
  /-- The key of a map whose value is merged into it. -/
  | merge
  /-- Any other kind, of which no value is known. -/
  | other
  deriving DecidableEq, Repr

namespace Tag

/-- The kinds by the names of their tags. -/
def names : List (String × Tag) :=
  [("null", .null), ("bool", .flag), ("int", .integer), ("float", .decimal), ("str", .text),
    ("binary", .octets), ("timestamp", .timestamp), ("seq", .list), ("map", .map), ("set", .set),
    ("omap", .orderedMap), ("pairs", .pairs), ("value", .default), ("merge", .merge)]

/-- The kind that the full name of a tag stands for. -/
def ofName (name : String) : Tag :=
  ((names.find? fun entry => name == "tag:yaml.org,2002:" ++ entry.1).map Prod.snd).getD .other

end Tag

end PluginOrder.Yaml
