import PluginOrder.Document
import Mathlib.Data.List.Perm.Subperm
import Mathlib.Data.Nat.Digits.Defs

/-!
# The parts of a value

A value has a text unless a part of it has no literal of its own (`Value.blocked_of_displayWith`): a
whole number with too many digits, or a collection that the value names and that has no literal.  In
a document it is then always such a number that is to blame (`Document.holdsOversized_of_display?`),
for the search through the collections never ends too early: those on the way inwards are different
ones, so there are not more of them than turns (`Document.holdsOversized_of_literalOf`).
-/

namespace PluginOrder

namespace Value

/-- A value is a part of another one: that value itself, or a part of something in it. -/
inductive Part : Value → Value → Prop
  | self {v : Value} : Part v v
  | item {v item : Value} {items : List Value} (hitem : item ∈ items) (hpart : Part v item) :
      Part v (.list items)
  | member {v member : Value} {members : List Value} (hmember : member ∈ members)
      (hpart : Part v member) : Part v (.set members)
  | pairKey {v key value : Value} (hpart : Part v key) : Part v (.pair key value)
  | pairValue {v key value : Value} (hpart : Part v value) : Part v (.pair key value)
  | entryKey {v key value : Value} {entries : List (Value × Value)}
      (hentry : (key, value) ∈ entries)
      (hpart : Part v key) : Part v (.map entries)
  | entryValue {v key value : Value} {entries : List (Value × Value)}
      (hentry : (key, value) ∈ entries) (hpart : Part v value) : Part v (.map entries)

theorem Part.trans {u v w : Value} (huv : Part u v) (hvw : Part v w) : Part u w := by
  induction hvw with
  | self => exact huv
  | item hitem _ ih => exact .item hitem ih
  | member hmember _ ih => exact .member hmember ih
  | pairKey _ ih => exact .pairKey ih
  | pairValue _ ih => exact .pairValue ih
  | entryKey hentry _ ih => exact .entryKey hentry ih
  | entryValue hentry _ ih => exact .entryValue hentry ih

theorem mem_of_lookup? {key : String} {value : Value} {entries : List (Value × Value)}
    (h : lookup? key entries = some value) : (.text key, value) ∈ entries := by
  fun_induction lookup? key entries with
  | case1 => cases h
  | case2 found rest =>
      cases h
      exact List.mem_cons_self
  | case3 k other rest _ ih => exact List.mem_cons_of_mem _ (ih h)
  | case4 entry rest _ ih => exact List.mem_cons_of_mem _ (ih h)

theorem part_of_get? {v w : Value} {key : String} (h : v.get? key = some w) : Part w v := by
  cases v with
  | map entries => exact .entryValue (mem_of_lookup? h) .self
  | _ => cases h

/-! ## What has no text -/

/-- A value has no literal of its own: it is a whole number with too many digits, or it names a
collection that has no literal. -/
def Blocks (shared : Nat → Option String) : Value → Prop
  | .int n => 10 ^ Text.maxDigits ≤ n.natAbs
  | .shared number => shared number = none
  | _ => False

/-- Some part of a value has no literal of its own. -/
def Blocked (shared : Nat → Option String) (v : Value) : Prop :=
  ∃ part, Part part v ∧ Blocks shared part

theorem Blocked.of_part {shared : Nat → Option String} {v w : Value} (h : v.Blocked shared)
    (hpart : Part v w) : w.Blocked shared := by
  obtain ⟨part, hv, hblocks⟩ := h
  exact ⟨part, hv.trans hpart, hblocks⟩

theorem displayInt?_eq_none_iff {n : Int} :
    displayInt? n = none ↔ 10 ^ Text.maxDigits ≤ n.natAbs := by
  have hlength : (Text.showNat n.natAbs).length ≤ Text.maxDigits ↔ n.natAbs < 10 ^ Text.maxDigits :=
    Nat.length_toDigits_le_iff (by decide) (by decide)
  have hnone : Text.showNat? n.natAbs = none ↔ Text.maxDigits < (Text.showNat n.natAbs).length := by
    simp [Text.showNat?]
  rw [displayInt?, Option.map_eq_none_iff, hnone, ← Nat.not_le, hlength, Nat.not_lt]

mutual

theorem blocked_of_literalWith {shared : Nat → Option String} :
    ∀ v : Value, v.literalWith shared = none → v.Blocked shared
  | .int n, h => by
      simp only [literalWith] at h
      exact ⟨_, .self, displayInt?_eq_none_iff.mp h⟩
  | .shared number, h => by
      simp only [literalWith] at h
      exact ⟨_, .self, h⟩
  | .list items, h => by
      simp only [literalWith, Option.map_eq_none_iff] at h
      obtain ⟨item, hitem, hblocked⟩ := blocked_of_literalsWith items h
      exact hblocked.of_part (.item hitem .self)
  | .set members, h => by
      simp only [literalWith, Option.map_eq_none_iff] at h
      obtain ⟨member, hmember, hblocked⟩ := blocked_of_literalsWith members h
      exact hblocked.of_part (.member hmember .self)
  | .pair key value, h => by
      simp only [literalWith, bind, Option.bind_eq_none_iff] at h
      cases hkey : key.literalWith shared with
      | none => exact (blocked_of_literalWith key hkey).of_part (.pairKey .self)
      | some k =>
          cases hvalue : value.literalWith shared with
          | none => exact (blocked_of_literalWith value hvalue).of_part (.pairValue .self)
          | some v => cases h k hkey v hvalue
  | .map entries, h => by
      simp only [literalWith, Option.map_eq_none_iff] at h
      exact blocked_of_entryLiteralsWith entries h
  | .null, h | .bool _, h | .float _, h | .text _, h | .illFormed _, h | .octets _, h | .date _, h
  | .moment _, h => by
      simp only [literalWith] at h
      cases h

theorem blocked_of_literalsWith {shared : Nat → Option String} :
    ∀ items : List Value, literalsWith shared items = none → ∃ item ∈ items, item.Blocked shared
  | [], h => by
      simp only [literalsWith] at h
      cases h
  | item :: rest, h => by
      simp only [literalsWith, bind, Option.bind_eq_none_iff] at h
      cases hitem : item.literalWith shared with
      | none => exact ⟨item, List.mem_cons_self, blocked_of_literalWith item hitem⟩
      | some first =>
          cases hrest : literalsWith shared rest with
          | none =>
              obtain ⟨other, hother, hblocked⟩ := blocked_of_literalsWith rest hrest
              exact ⟨other, List.mem_cons_of_mem _ hother, hblocked⟩
          | some others => cases h first hitem others hrest

theorem blocked_of_entryLiteralsWith {shared : Nat → Option String} :
    ∀ entries : List (Value × Value), entryLiteralsWith shared entries = none →
      (Value.map entries).Blocked shared
  | [], h => by
      simp only [entryLiteralsWith] at h
      cases h
  | (key, value) :: rest, h => by
      simp only [entryLiteralsWith, bind, Option.bind_eq_none_iff] at h
      cases hkey : key.literalWith shared with
      | none =>
          exact (blocked_of_literalWith key hkey).of_part (.entryKey List.mem_cons_self .self)
      | some k =>
          cases hvalue : value.literalWith shared with
          | none =>
              exact (blocked_of_literalWith value hvalue).of_part
                (.entryValue List.mem_cons_self .self)
          | some v =>
              cases hrest : entryLiteralsWith shared rest with
              | some others => cases h k hkey v hvalue others hrest
              | none =>
                  -- a map does not block itself, so what blocks is a part of one of the others
                  obtain ⟨part, hpart, hblocks⟩ := blocked_of_entryLiteralsWith rest hrest
                  refine ⟨part, ?_, hblocks⟩
                  cases hpart with
                  | self => exact hblocks.elim
                  | entryKey hentry hpart => exact .entryKey (List.mem_cons_of_mem _ hentry) hpart
                  | entryValue hentry hpart =>
                      exact .entryValue (List.mem_cons_of_mem _ hentry) hpart

end

theorem blocked_of_displayWith {shared : Nat → Option String} {v : Value}
    (h : v.displayWith shared = none) : v.Blocked shared := by
  cases v with
  | text s => cases h
  | date d => cases h
  | moment m => cases h
  | _ => exact blocked_of_literalWith _ h

end Value

/-! ## Documents -/

namespace Document

variable {d : Document}

/-- A whole number with too many digits is in a value of the document, or in one of the
collections. -/
def HoldsOversized (d : Document) (v : Value) : Prop :=
  ∃ n : Int, 10 ^ Text.maxDigits ≤ n.natAbs ∧
    (Value.Part (.int n) v ∨ ∃ w ∈ d.collections, Value.Part (.int n) w)

theorem view_mem_collections {number : Nat} (h : d.view (.shared number) ≠ .null) :
    number < d.collections.size ∧ d.view (.shared number) ∈ d.collections := by
  by_cases hlt : number < d.collections.size
  · exact ⟨hlt, by simp [view, Array.getD, hlt]⟩
  · exact absurd (by simp [view, Array.getD, hlt]) h

/-- The literal of a collection inside different other ones is missing only because of a number. -/
theorem holdsOversized_of_literalOf {turns number : Nat} {outer : List Nat} (hnodup : outer.Nodup)
    (hsize : ∀ other ∈ outer, other < d.collections.size)
    (hturns : d.collections.size < turns + outer.length)
    (h : d.literalOf turns outer number = none) (v : Value) : d.HoldsOversized v := by
  induction turns generalizing outer number with
  | zero =>
      -- so many different collections there are not
      have hsubset : outer ⊆ List.range d.collections.size :=
        fun other hother => List.mem_range.mpr (hsize other hother)
      have hlength := (List.subperm_of_subset hnodup hsubset).length_le
      rw [List.length_range] at hlength
      omega
  | succ turns ih =>
      simp only [literalOf] at h
      split at h
      · cases h
      · rename_i hnew
        obtain ⟨part, hpart, hblocks⟩ := Value.blocked_of_literalWith _ h
        have hnull : d.view (.shared number) ≠ .null := by
          intro hnull
          rw [hnull] at hpart
          cases hpart
          exact hblocks
        obtain ⟨hlt, hmem⟩ := view_mem_collections hnull
        cases part with
        | int n => exact ⟨n, hblocks, Or.inr ⟨_, hmem, hpart⟩⟩
        | shared inner =>
            have hnot : number ∉ outer := by simpa using hnew
            refine ih (List.nodup_cons.mpr ⟨hnot, hnodup⟩) ?_ ?_ hblocks
            · exact List.forall_mem_cons.mpr ⟨hlt, hsize⟩
            · rw [List.length_cons]
              omega
        | _ => exact hblocks.elim

/-- **What has no text.**  A value of a document has a text, unless there is a whole number with too
many digits in it or in a collection. -/
theorem holdsOversized_of_display? {v : Value} (h : d.display? v = none) : d.HoldsOversized v := by
  obtain ⟨part, hpart, hblocks⟩ := Value.blocked_of_displayWith h
  cases part with
  | int n => exact ⟨n, hblocks, Or.inl hpart⟩
  | shared number =>
      exact holdsOversized_of_literalOf List.nodup_nil (by simp) (by simp) hblocks v
  | _ => exact hblocks.elim

end Document

end PluginOrder
