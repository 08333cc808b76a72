import PluginOrder.Value.Display

/-!
# Documents

A document is a value together with the collections that it names by their numbers.  Every
collection has one number, however often it occurs, and may occur inside itself.  A document that
shares nothing is just its value.

The text of a collection inside itself would have no end, so at the second meeting on the way
inwards an ellipsis stands for it.
-/

namespace PluginOrder

/-- A value and the collections that it names. -/
structure Document where
  root : Value
  collections : Array Value

namespace Document

/-- The document of a value that names no collections. -/
def ofValue (v : Value) : Document := ⟨v, #[]⟩

/-- What a value of the document is: a number stands for its collection. -/
def view (d : Document) : Value → Value
  | .shared number => d.collections.getD number .null
  | v => v

/-- The value of a text key of a map. -/
def get? (d : Document) (v : Value) (key : String) : Option Value := (d.view v).get? key

/-- What stands for a collection inside itself. -/
def ellipsis : Value → String
  | .map _ => "\x7b...\x7d"
  | _ => "[...]"

/-- The literal of a collection inside others.  The ways inwards are no longer than there are
collections, so that many turns are enough. -/
def literalOf (d : Document) : Nat → List Nat → Nat → Option String
  | 0, _, _ => none
  | turns + 1, outer, number =>
    let v := d.view (.shared number)
    if outer.contains number then some (ellipsis v)
    else v.literalWith (literalOf d turns (number :: outer))

/-- The literal of a collection. -/
def collectionLiteral (d : Document) (number : Nat) : Option String :=
  d.literalOf (d.collections.size + 2) [] number

/-- The text of a value of the document. -/
def display? (d : Document) (v : Value) : Option String := v.displayWith d.collectionLiteral

theorem view_eq_self (d : Document) {v : Value} (h : ∀ number, v ≠ .shared number) :
    d.view v = v := by
  cases v <;> first | rfl | exact absurd rfl (h _)

end Document

end PluginOrder
