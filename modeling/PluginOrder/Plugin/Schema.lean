import PluginOrder.Plugin.Basic
import PluginOrder.Journal.Level
import PluginOrder.Text.Case

/-!
# Checking document values

A document value is checked against one of four models and becomes a plugin, a service, an import
or a configuration.  All complaints are collected: those of the fields in the order of the model,
each with its place in the value, then one for every key that the model does not know.

Nothing is converted to text; only flags may be spelled in several ways.
-/

namespace PluginOrder

/-- What a document value is checked against. -/
inductive Model where
  | plugin
  | service
  | importing
  | config
  deriving DecidableEq, Repr

/-- The name of a model. -/
def Model.name : Model → String
  | .plugin => "PluginDescriptor"
  | .service => "ServiceDeclaration"
  | .importing => "ImportDeclaration"
  | .config => "ResolverConfig"

/-- A step into a document value. -/
inductive Place where
  | name (key : String)
  | index (position : Nat)
  deriving DecidableEq, Repr

/-- The text of a step. -/
def Place.display : Place → String
  | .name key => key
  | .index position => toString position

/-- What is wrong with a value. -/
inductive Complaint where
  | missing
  | notText
  | notUtf8
  | emptyText
  | notList
  | notModel (model : Model)
  | unknownKey
  | notServiceKind
  | notLevel
  | notFlag
  | unreadableFlag
  | frozen
  deriving DecidableEq, Repr

namespace Complaint

/-- The code of a complaint. -/
def code : Complaint → String
  | .missing => "missing"
  | .notText => "string_type"
  | .notUtf8 => "string_unicode"
  | .emptyText => "string_too_short"
  | .notList => "list_type"
  | .notModel _ => "model_type"
  | .unknownKey => "extra_forbidden"
  | .notServiceKind => "enum"
  | .notLevel => "literal_error"
  | .notFlag => "bool_type"
  | .unreadableFlag => "bool_parsing"
  | .frozen => "frozen_instance"

/-- A complaint in words. -/
def message : Complaint → String
  | .missing => "Field required"
  | .notText => "Input should be a valid string"
  | .notUtf8 => "Input should be a valid string, unable to parse raw data as a unicode string"
  | .emptyText => "String should have at least 1 character"
  | .notList => "Input should be a valid list"
  | .notModel model => "Input should be a valid dictionary or instance of " ++ model.name
  | .unknownKey => "Extra inputs are not permitted"
  | .notServiceKind => "Input should be 'service' or 'import'"
  | .notLevel => "Input should be 'DEBUG', 'INFO', 'WARNING', 'ERROR' or 'CRITICAL'"
  | .notFlag => "Input should be a valid boolean"
  | .unreadableFlag => "Input should be a valid boolean, unable to interpret input"
  | .frozen => "Instance is frozen"

end Complaint

/-- A complaint with its place. -/
structure Finding where
  place : List Place
  complaint : Complaint
  deriving DecidableEq, Repr

/-- The place of a finding, its steps joined by dots. -/
def Finding.field (f : Finding) : String := joinDots (f.place.map Place.display)
where
  /-- Texts with dots between them. -/
  joinDots (texts : List String) : String := ".".intercalate texts

/-- The result of a check: a value, or all that is wrong. -/
abbrev Checked (α : Type) := Except (List Finding) α

namespace Checked

variable {α β : Type}

/-- A single complaint about the value itself. -/
def fail (complaint : Complaint) : Checked α := .error [⟨[], complaint⟩]

/-- The check of a part, its findings placed one step further in. -/
def within (place : Place) : Checked α → Checked α
  | .ok a => .ok a
  | .error findings => .error (findings.map fun f => { f with place := place :: f.place })

/-- The check of one more argument of a function, the findings so far coming first. -/
def ap (a : Checked α) (f : Checked (α → β)) : Checked β :=
  match f, a with
  | .ok f, .ok a => .ok (f a)
  | .ok _, .error findings => .error findings
  | .error findings, .ok _ => .error findings
  | .error first, .error second => .error (first ++ second)

end Checked

/-! ### Scalars -/

/-- A text; octets count as the text that they encode.  What holds half of a surrogate pair is no
text here, not even for a field whose text may have any length and need not be looked into. -/
def checkText : Value → Checked String
  | .text s => .ok s
  | .illFormed _ => Checked.fail .notUtf8
  | .octets bytes =>
    match String.fromUTF8? ⟨bytes.toArray⟩ with
    | some s => .ok s
    | none => Checked.fail .notUtf8
  | _ => Checked.fail .notText

/-- A text with at least one character. -/
def checkNonempty (v : Value) : Checked String :=
  match checkText v with
  | .ok s => if s.isEmpty then Checked.fail .emptyText else .ok s
  | .error findings => .error findings

/-- A text or null. -/
def checkText? : Value → Checked (Option String)
  | .null => .ok none
  | v => (checkText v).map some

/-- A service kind by its name. -/
def checkKind : Value → Checked ServiceKind
  | .text s =>
    match ServiceKind.ofName? s with
    | some kind => .ok kind
    | none => Checked.fail .notServiceKind
  | _ => Checked.fail .notServiceKind

/-- The spellings of a flag that is off. -/
def offSpellings : List String := ["0", "off", "f", "false", "n", "no"]

/-- The spellings of a flag that is on. -/
def onSpellings : List String := ["1", "on", "t", "true", "y", "yes"]

/-- A flag: a truth value, zero or one, or a spelling in any case.  A number counts as a misspelled
flag only if it is whole and in the range of signed words of 64 bits; of doubles the least of these
numbers does not count. -/
def checkFlag : Value → Checked Bool
  | .bool b => .ok b
  | .int n =>
    if n = 0 then .ok false
    else if n = 1 then .ok true
    else if -(Nat.pow 2 63 : Int) ≤ n ∧ n < Nat.pow 2 63 then Checked.fail .unreadableFlag
    else Checked.fail .notFlag
  | .float x =>
    if x == 0.0 then .ok false
    else if x == 1.0 then .ok true
    else if x.floor == x && x.abs < 9223372036854775808.0 then Checked.fail .unreadableFlag
    else Checked.fail .notFlag
  | .text s =>
    let spelling := String.ofList (Text.lowerAscii s.toList)
    if offSpellings.contains spelling then .ok false
    else if onSpellings.contains spelling then .ok true
    else Checked.fail .unreadableFlag
  | .illFormed _ => Checked.fail .notUtf8
  | .octets _ | .null | .date _ | .moment _ | .list _ | .pair _ _ | .set _ | .map _
  | .shared _ =>
    Checked.fail .notFlag

/-- A log level by its name in capitals. -/
def checkLevel : Value → Checked Level
  | .text s =>
    match Level.ofName? s with
    | some level => .ok level
    | none => Checked.fail .notLevel
  | _ => Checked.fail .notLevel

/-! ### Lists and models -/

/-- The items of a list from a position on, the findings of all collected. -/
def checkItems {α : Type} (check : Value → Checked α) : Nat → List Value → Checked (List α)
  | _, [] => .ok []
  | position, v :: rest =>
    Checked.ap (checkItems check (position + 1) rest)
      (Checked.ap (Checked.within (.index position) (check v)) (.ok List.cons))

/-- A list whose items all pass a check. -/
def checkList {α : Type} (check : Value → Checked α) : Value → Checked (List α)
  | .list items => checkItems check 0 items
  | _ => Checked.fail .notList

/-- A field of a model.  One that is absent takes its default, or is missing if it has none. -/
def checkField {α : Type} (name : String) (default? : Option α) (check : Value → Checked α)
    (entries : List (Value × Value)) : Checked α :=
  match Value.lookup? name entries with
  | some v => Checked.within (.name name) (check v)
  | none =>
    match default? with
    | some a => .ok a
    | none => Checked.within (.name name) (Checked.fail .missing)

/-- The keys that a model does not know, in their order. -/
def unknownKeys (known : List String) (entries : List (Value × Value)) : List Finding :=
  entries.filterMap fun (key, _) =>
    match key with
    | .text k => if known.contains k then none else some ⟨[.name k], .unknownKey⟩
    | _ => some ⟨[], .unknownKey⟩

/-- A map that has the fields of a model and no other keys. -/
def checkModel {α : Type} (model : Model) (known : List String)
    (fields : List (Value × Value) → Checked α) : Value → Checked α
  | .map entries =>
    match fields entries, unknownKeys known entries with
    | .ok a, [] => .ok a
    | .ok _, findings => .error findings
    | .error findings, others => .error (findings ++ others)
  | _ => Checked.fail (.notModel model)

/-- Checks a value as a service. -/
def Service.check : Value → Checked Service :=
  checkModel .service ["name", "version", "kind", "type"] fun entries =>
    .ok Service.mk
      |> Checked.ap (checkField "name" none checkNonempty entries)
      |> Checked.ap (checkField "version" (some "") checkText entries)
      |> Checked.ap (checkField "kind" (some .service) checkKind entries)
      |> Checked.ap (checkField "type" (some "service") checkText entries)

/-- A service or null. -/
def checkTarget : Value → Checked (Option Service)
  | .null => .ok none
  | v => (Service.check v).map some

/-- Checks a value as an import. -/
def Import.check : Value → Checked Import :=
  checkModel .importing
    ["source_plugin", "source_name", "local_name", "version_range", "target_service"]
    fun entries =>
      .ok (fun plugin name localName range => Import.mk plugin name localName (.text range))
        |> Checked.ap (checkField "source_plugin" none checkNonempty entries)
        |> Checked.ap (checkField "source_name" none checkNonempty entries)
        |> Checked.ap (checkField "local_name" none checkNonempty entries)
        |> Checked.ap (checkField "version_range" (some "*") checkText entries)
        |> Checked.ap (checkField "target_service" (some none) checkTarget entries)

/-- Checks a value as a plugin. -/
def Plugin.check : Value → Checked Plugin :=
  checkModel .plugin ["identifier", "plugin_version", "services", "imports"] fun entries =>
    .ok Plugin.mk
      |> Checked.ap (checkField "identifier" none checkNonempty entries)
      |> Checked.ap (checkField "plugin_version" (some none) checkText? entries)
      |> Checked.ap (checkField "services" (some []) (checkList Service.check) entries)
      |> Checked.ap (checkField "imports" (some []) (checkList Import.check) entries)

end PluginOrder
