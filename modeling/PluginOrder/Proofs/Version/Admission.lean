import PluginOrder.Plugin.Binding
import Mathlib.Order.Compare

/-!
# What it takes to admit pre-releases

Once pre-releases are admitted, a bound is compared by its three numbers alone.  A bound with other
numbers than a version admits it as before, and so does one with the same numbers that includes
them.  But a strict bound with the same numbers *splits* them: `>1.2.3-beta` is met by some versions
with the numbers 1.2.3, and once pre-releases are admitted it is met by none, not even by 1.2.3
itself.

So a version that meets a list of comparators goes on to meet it if and only if none of them splits
its numbers (`admitsAll_true`).  A range keeps a version if this holds of one of its alternatives.
-/

namespace PluginOrder

namespace Version

variable {v w : Version}

theorem compareTriple_eq_iff : v.compareTriple w = .eq ↔ w.sameTriple v = true := by
  simp only [compareTriple, sameTriple, Ordering.then_eq_eq, Nat.compare_eq_eq, Bool.and_eq_true,
    beq_iff_eq]
  grind

theorem compare_of_not_sameTriple (h : w.sameTriple v = false) :
    v.compare w = v.compareTriple w := by
  have hne : v.compareTriple w ≠ .eq := fun heq =>
    Bool.false_ne_true (h.symm.trans (compareTriple_eq_iff.mp heq))
  unfold compare
  cases hcompare : v.compareTriple w with
  | lt => rfl
  | eq => exact absurd hcompare hne
  | gt => rfl

end Version

namespace Comparator

/-- Whether the comparator is a strict bound with the three numbers of a version. -/
def splits (v : Version) : Comparator → Bool
  | .bound .less w | .bound .greater w => w.sameTriple v
  | _ => false

variable {v : Version} {comparator : Comparator}

/-- Of the comparators that a version meets, those are lost that split its numbers. -/
theorem admits_true (h : comparator.admits false v = true) :
    comparator.admits true v = !comparator.splits v := by
  cases comparator with
  | any => rfl
  | bound relation w =>
      cases hsame : w.sameTriple v with
      | true =>
          have hcompare : v.compareTriple w = .eq := Version.compareTriple_eq_iff.mpr hsame
          simp only [admits, hcompare, if_true]
          cases relation <;> simp [Relation.holds, splits, hsame]
      | false =>
          have hcompare := Version.compare_of_not_sameTriple hsame
          simp only [admits, hcompare, Bool.false_eq_true, if_false] at h
          simp only [admits, h, if_true]
          cases relation <;> simp [splits, hsame]

end Comparator

/-- Of the lists of comparators that a version meets, those are lost that split its numbers. -/
theorem admitsAll_true {v : Version} {comparators : List Comparator}
    (h : admitsAll false v comparators = true) :
    admitsAll true v comparators = !comparators.any (·.splits v) := by
  unfold admitsAll at h ⊢
  rw [Bool.and_eq_true] at h
  have hall := List.all_eq_true.mp h.1
  rw [Bool.or_true, Bool.true_or, Bool.and_true, List.not_any_eq_all_not, Bool.eq_iff_iff,
    List.all_eq_true, List.all_eq_true]
  refine forall₂_congr fun comparator hmem => ?_
  rw [Comparator.admits_true (hall comparator hmem)]

namespace Range

/-- Whether a version meets an alternative that does not split its numbers. -/
def keeps (v : Version) (r : Range) : Bool :=
  r.any fun alternative => admitsAll false v alternative && !alternative.any (·.splits v)

theorem admits_of_keeps {v : Version} {r : Range} (h : r.keeps v = true) :
    r.admits true v = true := by
  obtain ⟨alternative, hmem, hkeeps⟩ := List.any_eq_true.mp h
  rw [Bool.and_eq_true] at hkeeps
  refine List.any_eq_true.mpr ⟨alternative, hmem, ?_⟩
  rw [admitsAll_true hkeeps.1]
  exact hkeeps.2

end Range

namespace Config

/-- A configuration in which pre-releases are admitted, or are not. -/
def admitting (c : Config) (includePrerelease : Bool) : Config := { c with includePrerelease }

/-- Whether a version meets an alternative of a range that does not split its numbers. -/
def keeps (c : Config) (version : String) : Value → Bool
  | .text range =>
    match Version.read? c.dialect version.toList, Range.read? c.dialect range.toList with
    | some v, some r => r.keeps v
    | _, _ => false
  | _ => false

variable {c : Config} {version : String} {range : Value}

/-- **What a range keeps it goes on to accept**, when pre-releases are admitted. -/
theorem accepts_of_keeps (h : c.keeps version range = true) :
    (c.admitting true).accepts version range = true := by
  cases range with
  | text range =>
      have hdialect : (c.admitting true).dialect = c.dialect := rfl
      simp only [keeps] at h
      simp only [accepts, satisfies, hdialect]
      cases hversion : Version.read? c.dialect version.toList with
      | none => simp [hversion] at h
      | some v =>
          cases hrange : Range.read? c.dialect range.toList with
          | none => simp [hversion, hrange] at h
          | some r =>
              rw [hversion, hrange] at h
              exact Range.admits_of_keeps h
  | _ => cases h

end Config

end PluginOrder
