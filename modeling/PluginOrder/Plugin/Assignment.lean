import PluginOrder.Plugin.Schema
import PluginOrder.Value.Display

/-!
# Assigning to attributes

Imports are the only objects whose fields may be assigned to, and the assigned value is not
checked.  Names that begin with an underscore are private to the object, whether its fields may be
assigned to or not: most of them can be assigned to, and no document value shows them.  A few
private names mean something: the class of the object, its fields as a whole, and what is kept for
all objects of a model together.
-/

namespace PluginOrder

/-- Why an assignment is refused. -/
inductive AssignmentFault where
  /-- Objects of the model never change. -/
  | frozen (model : Model) (name : String)
  /-- The model has no attribute of the name. -/
  | unknown (model : Model) (name : String)
  /-- The attribute belongs to the model and not to one object. -/
  | ofModel (model : Model) (name : String)
  /-- The attribute is computed from others. -/
  | computed (model : Model) (name : String)
  /-- The attribute is kept by the system. -/
  | readOnly (model : Model) (name : String)
  /-- The class of an object must be a class, which no document value is. -/
  | notClass (value : Value)
  /-- The fields as a whole must be a map. -/
  | notFields (value : Value)

/-- A refused assignment in words. -/
def AssignmentFault.message : AssignmentFault → String
  | .frozen _ _ => Complaint.message .frozen
  | .unknown model name =>
    "\"" ++ model.name ++ "\" object has no field \"" ++ name ++ "\""
  | .ofModel model name =>
    Text.quote name ++ " is a ClassVar of \x60" ++ model.name ++
      "\x60 and cannot be set on an instance. If you want to set a value on the class, use \x60" ++
      model.name ++ "." ++ name ++ " = value\x60."
  | .computed model name =>
    "property " ++ Text.quote name ++ " of '" ++ model.name ++ "' object has no setter"
  | .readOnly model name =>
    "attribute " ++ Text.quote name ++ " of '" ++ model.name ++ "' objects is not writable"
  | .notClass value => "__class__ must be set to a class, not '" ++ value.kindName ++ "' object"
  | .notFields value => "__dict__ must be set to a dictionary, not a '" ++ value.kindName ++ "'"

/-- The names of what is kept for all objects of a model together. -/
def sharedNames : List String :=
  ["__class_vars__", "__private_attributes__", "__signature__", "__pydantic_complete__",
    "__pydantic_core_schema__", "__pydantic_custom_init__", "__pydantic_decorators__",
    "__pydantic_generic_metadata__", "__pydantic_parent_namespace__", "__pydantic_post_init__",
    "__pydantic_root_model__", "__pydantic_serializer__", "__pydantic_validator__",
    "__pydantic_fields__", "__pydantic_setattr_handlers__", "__pydantic_computed_fields__"]

/-- The names of attributes that are computed. -/
def computedNames : List String := ["model_extra", "model_fields_set"]

/-- The entries of a document value with a new value for a key that they have. -/
def replaceEntry (key : String) (value : Value) (entries : List (Value × Value)) :
    List (Value × Value) :=
  entries.map fun (k, old) => (k, if k.isText key then value else old)

/-- The entries under the keys of other entries. -/
def keepKnown (known entries : List (Value × Value)) : List (Value × Value) :=
  entries.filter fun (key, _) =>
    match key with
    | .text k => (Value.lookup? k known).isSome
    | _ => false

/-- The document value of an object after an assignment to a private name. -/
def Model.assignPrivate (model : Model) (shown : Value) (name : String) (value : Value) :
    Except AssignmentFault Value :=
  match name, shown, value with
  | "__class__", _, _ => .error (.notClass value)
  | "__dict__", .map known, .map entries => .ok (.map (keepKnown known entries))
  | "__dict__", _, _ => .error (.notFields value)
  | "__weakref__", _, _ => .error (.readOnly model name)
  | "__fields_set__", _, _ => .error (.computed model name)
  | _, _, _ => .ok shown

/-- The document value of an object of a model after an assignment. -/
def Model.assign (model : Model) (shown : Value) (name : String) (value : Value) :
    Except AssignmentFault Value :=
  if sharedNames.contains name then .error (.ofModel model name)
  else if name.toList.head? = some '_' then model.assignPrivate shown name value
  else
    match model, shown with
    | .importing, .map entries =>
      if computedNames.contains name then .error (.computed model name)
      else if (shown.get? name).isSome then .ok (.map (replaceEntry name value entries))
      else if name = "target_service" then .ok shown
      else .error (.unknown model name)
    | _, _ => .error (.frozen model name)

end PluginOrder
