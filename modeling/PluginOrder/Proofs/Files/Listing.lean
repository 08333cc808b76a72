import PluginOrder.Proofs.Files.Tree

/-!
# The order in which a tree is listed

A snapshot lists its entries in some order, as a file system enumerates the members of a directory
in some order.  `Snapshot.Relists` says of two snapshots that they show one tree in different
orders.  No path leads elsewhere because of that (`Snapshot.Relists.resolve_eq`), and once the names
found below a directory are sorted, nothing of the order is left (`mergeSort_namesPrecede_congr`):
names are compared one by one, which is the lexicographic order (`namesPrecede_iff`), so there is
only one way to sort them.
-/

namespace PluginOrder

/-! ## Sorting names -/

section

variable {a b c : List String}

/-- Names precede those that come after them in the lexicographic order, and themselves. -/
theorem namesPrecede_iff : namesPrecede a b = true ↔ a < b ∨ a = b := by
  induction a generalizing b with
  | nil => cases b <;> simp [namesPrecede]
  | cons first rest ih =>
      cases b with
      | nil => simp [namesPrecede]
      | cons other others =>
          by_cases hsame : first = other
          · subst hsame
            simp [namesPrecede, ih]
          · simp [namesPrecede, List.cons_lt_cons_iff, hsame]

/-- A directory precedes its longer namesakes, with all that is below it. -/
example : namesPrecede ["a", "x"] ["a-b"] = true ∧ "a-b" < "a/x" := by decide +kernel

theorem namesPrecede_trans (hab : namesPrecede a b = true) (hbc : namesPrecede b c = true) :
    namesPrecede a c = true := by
  rw [namesPrecede_iff] at hab hbc ⊢
  rcases hab with hab | rfl
  · rcases hbc with hbc | rfl
    · exact Or.inl (List.lt_trans hab hbc)
    · exact Or.inl hab
  · exact hbc

theorem namesPrecede_antisymm (hab : namesPrecede a b = true) (hba : namesPrecede b a = true) :
    a = b := by
  rw [namesPrecede_iff] at hab hba
  rcases hab with hab | hab
  · rcases hba with hba | hba
    · exact absurd (List.lt_trans hab hba) (List.lt_irrefl a)
    · exact hba.symm
  · exact hab

theorem namesPrecede_total (a b : List String) : (namesPrecede a b || namesPrecede b a) = true := by
  rw [Bool.or_eq_true]
  induction a generalizing b with
  | nil => exact Or.inl rfl
  | cons first rest ih =>
      cases b with
      | nil => exact Or.inr rfl
      | cons other others =>
          by_cases hsame : first = other
          · simpa [namesPrecede, hsame] using ih others
          · have hstrict : first < other ∨ other < first := by
              rcases String.le_total first other with hle | hle
              · exact Or.inl (Std.lt_of_le_of_ne hle hsame)
              · exact Or.inr (Std.lt_of_le_of_ne hle (Ne.symm hsame))
            simpa [namesPrecede, hsame, Ne.symm hsame] using hstrict

end

theorem pairwise_mergeSort_namesPrecede (found : List (List String)) :
    (found.mergeSort namesPrecede).Pairwise (namesPrecede · · = true) := by
  apply List.pairwise_mergeSort
  · exact fun _ _ _ => namesPrecede_trans
  · exact namesPrecede_total

/-- Different names are sorted strictly. -/
theorem pairwise_lt_mergeSort {found : List (List String)} (hnodup : found.Nodup) :
    (found.mergeSort namesPrecede).Pairwise (· < ·) := by
  have hne : (found.mergeSort namesPrecede).Pairwise (· ≠ ·) :=
    (List.mergeSort_perm found namesPrecede).nodup_iff.mpr hnodup
  refine (hne.and (pairwise_mergeSort_namesPrecede found)).imp fun h => ?_
  exact (namesPrecede_iff.mp h.2).resolve_right h.1

/-- Sorting leaves nothing of the order in which names were found. -/
theorem mergeSort_namesPrecede_congr {found found' : List (List String)} (h : found.Perm found') :
    found.mergeSort namesPrecede = found'.mergeSort namesPrecede := by
  refine List.Perm.eq_of_pairwise (fun _ _ _ _ => namesPrecede_antisymm)
    (pairwise_mergeSort_namesPrecede found) (pairwise_mergeSort_namesPrecede found') ?_
  exact (List.mergeSort_perm _ _).trans (h.trans (List.mergeSort_perm _ _).symm)

namespace Snapshot

variable {s t : Snapshot} {position : Position} {path : Path}

/-- Two snapshots show one tree, whose entries they list in different orders. -/
structure Relists (t s : Snapshot) : Prop where
  workingDirectory_eq : t.workingDirectory = s.workingDirectory
  perm : t.entries.Perm s.entries

theorem lookup_congr {entries entries' : List (Position × Entry)} (h : entries.Perm entries')
    (hdistinct : (entries.map Prod.fst).Nodup) (position : Position) :
    entries.lookup position = entries'.lookup position := by
  induction h with
  | nil => rfl
  | cons entry _ ih =>
      rw [List.map_cons, List.nodup_cons] at hdistinct
      rw [List.lookup_cons, List.lookup_cons, ih hdistinct.2]
  | swap first second rest =>
      have hne : second.1 ≠ first.1 := by
        intro heq
        simp [heq] at hdistinct
      obtain ⟨key, entry⟩ := first
      obtain ⟨key', entry'⟩ := second
      -- only the first entry at the position is looked up, and of the two at most one stands there
      by_cases hkey : position = key
      · have hkey' : (position == key') = false := beq_false_of_ne (hkey ▸ Ne.symm hne)
        simp [List.lookup_cons, hkey']
      · simp [List.lookup_cons, beq_false_of_ne hkey]
  | trans hmiddle _ ih ih' =>
      have hdistinct' := (hmiddle.map Prod.fst).nodup_iff.mp hdistinct
      exact (ih hdistinct).trans (ih' hdistinct')

namespace Relists

theorem at?_eq (h : t.Relists s) (htree : s.IsTree) (position : Position) :
    t.at? position = s.at? position := by
  have hdistinct := (h.perm.map Prod.fst).nodup_iff.mpr htree.distinct
  rw [at?, at?, lookup_congr h.perm hdistinct]

theorem follow_eq (h : t.Relists s) (htree : s.IsTree) (position : Position) (names : List String) :
    t.follow position names = s.follow position names := by
  induction names generalizing position with
  | nil => rfl
  | cons name rest ih => rw [follow, follow, h.at?_eq htree, ih]

/-- The order of a listing does not matter to where a path leads. -/
theorem resolve_eq (h : t.Relists s) (htree : s.IsTree) (path : Path) :
    t.resolve path = s.resolve path := by
  have hstart : t.start path = s.start path := by rw [start, start, h.workingDirectory_eq]
  simp only [resolve, hstart, h.follow_eq htree, h.at?_eq htree]

theorem read_eq (h : t.Relists s) (htree : s.IsTree) (path : Path) : t.read path = s.read path := by
  rw [read, read, h.resolve_eq htree]

theorem below_perm (h : t.Relists s) (position : Position) :
    (t.below position).Perm (s.below position) :=
  h.perm.filterMap _

end Relists

end Snapshot

end PluginOrder
