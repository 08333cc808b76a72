import PluginOrder.Yaml.Draft

/-!
# Reading YAML

The document of a text: its tokens, the nodes that they stand for, and the values of the nodes.  A
text with a character that no document may hold is malformed as a whole.
-/

namespace PluginOrder.Yaml

/-- Whether a document may hold a character: tabs, line breaks and whatever is no control
character. -/
def isAllowed (c : Char) : Bool :=
  let n := c.toNat
  n == 9 || n == 10 || n == 13 || (0x20 ≤ n && n ≤ 0x7e) || n == 0x85 ||
    (0xa0 ≤ n && n ≠ 0xfffe && n ≠ 0xffff)

/-- Reads a text whose line breaks are unified. -/
def read (text : List Char) : Except Fault Document :=
  if text.all isAllowed then do (← Node.ofTokens (Token.ofText text)).document
  else .error .malformed

end PluginOrder.Yaml
