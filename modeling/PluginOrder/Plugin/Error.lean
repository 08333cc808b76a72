import PluginOrder.Value.Display

/-!
# Errors

What can go wrong with plugins besides a rejection, which is a result and no error.
-/

namespace PluginOrder

/-- One thing that is wrong with a definition. -/
structure Detail where
  /-- Where it is wrong; a value that counts as false means the definition as a whole. -/
  field : Value
  message : Value
  /-- The code of the complaint, if a model made it. -/
  code : Option String

/-- An error about plugins. -/
inductive PluginError where
  /-- Something that no other constructor names, told by whatever values there are to tell it. -/
  | general (told : List Value)
  /-- No plugin is registered under the identifier. -/
  | notFound (id : Value)
  /-- The identifier is taken. -/
  | duplicate (id : Value)
  /-- The plugins depend on each other in a circle. -/
  | cycle (ids : List String)
  /-- A definition is malformed. -/
  | definition (source : String) (details : List Detail)

namespace Detail

/-- A detail about a whole definition. -/
def whole (message : String) : Detail := ⟨.text "", .text message, none⟩

/-- A detail in words, its field in front if it has one.  A value without a text shows as
nothing. -/
def display (d : Detail) : String :=
  let message := d.message.display?.getD ""
  if d.field.isTruthy then (d.field.display?.getD "") ++ ": " ++ message else message

end Detail

namespace PluginError

/-- An error in words.  A value without a text shows as nothing. -/
def message : PluginError → String
  | .general [] => ""
  | .general [value] => value.display?.getD ""
  | .general told => "(" ++ joinTexts ", " ((Value.literals? told).getD []) ++ ")"
  | .notFound id => "Plugin not found: " ++ id.display?.getD ""
  | .duplicate id => "Duplicate plugin: " ++ id.display?.getD ""
  | .cycle ids => "Circular dependency: " ++ joinTexts " -> " ids
  | .definition source details =>
    "Invalid plugin definition in " ++ source ++ ": " ++
      joinTexts "; " (details.map Detail.display)

end PluginError

end PluginOrder
