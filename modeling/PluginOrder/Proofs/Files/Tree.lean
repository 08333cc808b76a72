import PluginOrder.Files.Snapshot
import Mathlib.Data.List.Induction

/-!
# Trees of files

In a tree (`Snapshot.IsTree`) what is found below a directory is also reached: the names under which
it is found lead there from the directory (`Snapshot.IsTree.follow_of_mem`), so a path to the
directory with these names behind it leads there as well, unless it is too long
(`Snapshot.IsTree.resolve_append`).
-/

namespace PluginOrder.Snapshot

variable {s : Snapshot} {position : Position} {names : List String} {entry : Entry} {path : Path}

/-- The entries are those of a tree: each has one place, in a directory, under a name that can be
one. -/
structure IsTree (s : Snapshot) : Prop where
  distinct : (s.entries.map Prod.fst).Nodup
  parents : ∀ entry ∈ s.entries, s.at? entry.1.dropLast = some .directory
  names : ∀ entry ∈ s.entries, ∀ name ∈ entry.1,
    name ≠ ".." ∧ '\x00' ∉ name.toList ∧ name.utf8ByteSize ≤ nameLimit

theorem isTree_iff : s.IsTree ↔ (s.entries.map Prod.fst).Nodup ∧
    (∀ entry ∈ s.entries, s.at? entry.1.dropLast = some .directory) ∧
    ∀ entry ∈ s.entries, ∀ name ∈ entry.1,
      name ≠ ".." ∧ '\x00' ∉ name.toList ∧ name.utf8ByteSize ≤ nameLimit :=
  ⟨fun h => ⟨h.distinct, h.parents, h.names⟩, fun h => ⟨h.1, h.2.1, h.2.2⟩⟩

instance (s : Snapshot) : Decidable s.IsTree := decidable_of_iff' _ isTree_iff

theorem mem_of_at? (h : s.at? position = some entry) (hne : position ≠ []) :
    (position, entry) ∈ s.entries := by
  simp only [at?, List.isEmpty_iff, hne, if_false] at h
  obtain ⟨before, after, heq, -⟩ := List.lookup_eq_some_iff.mp h
  rw [heq]
  simp

theorem namesBelow?_eq_some {above below : Position} :
    namesBelow? above below = some names ↔ below = above ++ names ∧ names ≠ [] := by
  induction above generalizing below with
  | nil =>
      cases below with
      | nil => simp [namesBelow?]
      | cons name rest =>
          simp only [namesBelow?, Option.some.injEq, List.nil_append]
          constructor
          · rintro rfl
            exact ⟨rfl, List.cons_ne_nil _ _⟩
          · exact fun h => h.1
  | cons a above ih =>
      cases below with
      | nil => simp [namesBelow?]
      | cons b below =>
          by_cases hab : a = b
          · simp [namesBelow?, hab, ih]
          · simp [namesBelow?, hab, Ne.symm hab]

theorem mem_below : (names, entry) ∈ s.below position ↔
    (position ++ names, entry) ∈ s.entries ∧ names ≠ [] := by
  simp only [below, List.mem_filterMap, Option.map_eq_some_iff, namesBelow?_eq_some]
  constructor
  · rintro ⟨⟨_, _⟩, hmem, _, ⟨rfl, hne⟩, heq⟩
    cases heq
    exact ⟨hmem, hne⟩
  · rintro ⟨hmem, hne⟩
    exact ⟨_, hmem, _, ⟨rfl, hne⟩, rfl⟩

namespace IsTree

theorem at?_of_mem (htree : s.IsTree) (h : (position, entry) ∈ s.entries) (hne : position ≠ []) :
    s.at? position = some entry := by
  obtain ⟨before, after, heq⟩ := List.append_of_mem h
  have hdistinct := htree.distinct
  rw [heq, List.map_append, List.map_cons, List.nodup_append] at hdistinct
  simp only [at?, List.isEmpty_iff, hne, if_false]
  refine List.lookup_eq_some_iff.mpr ⟨before, after, heq, fun other hother => ?_⟩
  have hother := hdistinct.2.2 _ (List.mem_map_of_mem hother) _ List.mem_cons_self
  simpa using hother.symm

/-- What an entry stands below is a directory. -/
theorem at?_of_mem_append (htree : s.IsTree) (h : (position ++ names, entry) ∈ s.entries)
    (hne : names ≠ []) : s.at? position = some .directory := by
  -- from the last name backwards: what holds it is an entry too, until the position is reached
  induction names using List.reverseRecOn generalizing entry with
  | nil => exact absurd rfl hne
  | append_singleton front last ih =>
      rw [← List.append_assoc] at h
      have hparent : s.at? (position ++ front) = some .directory := by simpa using htree.parents _ h
      by_cases hfront : front = []
      · rwa [hfront, List.append_nil] at hparent
      · exact ih (mem_of_at? hparent (by simp [hfront])) hfront

theorem follow_of_mem (htree : s.IsTree) (h : (position ++ names, entry) ∈ s.entries) :
    s.follow position names = .ok (position ++ names) := by
  induction names generalizing position with
  | nil => simp [follow]
  | cons name rest ih =>
      have hdirectory := htree.at?_of_mem_append h (List.cons_ne_nil _ _)
      obtain ⟨hup, -, hsize⟩ := htree.names _ h name (by simp)
      have hrest : (position ++ [name] ++ rest, entry) ∈ s.entries := by simpa using h
      have hstep : step position name = position ++ [name] := if_neg hup
      rw [follow, hdirectory]
      dsimp only
      rw [if_neg (Nat.not_lt.mpr hsize), hstep, ih hrest]
      simp

end IsTree

theorem follow_append (start : Position) (above below : List String) :
    s.follow start (above ++ below) =
      (s.follow start above).bind fun position => s.follow position below := by
  induction above generalizing start with
  | nil => rfl
  | cons name rest ih =>
      simp only [List.cons_append, follow]
      split
      · rfl
      · rfl
      · split
        · rfl
        · exact ih _

/-- A path that leads somewhere is short enough, and its names are followed from where it starts. -/
theorem follow_of_resolve (h : s.resolve path = .ok (position, entry)) :
    path.hasNull = false ∧ s.follow (s.start path) path.parts = .ok position := by
  unfold resolve at h
  split at h
  · cases h
  · rename_i hnull
    split at h
    · cases h
    · cases hfollow : s.follow (s.start path) path.parts with
      | error fault => simp [hfollow] at h
      | ok found =>
          simp only [hfollow] at h
          cases hat : s.at? found with
          | none => simp [hat] at h
          | some there =>
              simp only [hat, Except.ok.injEq, Prod.mk.injEq] at h
              exact ⟨by simpa using hnull, by rw [h.1]⟩

theorem long_of_follow {start : Position} (h : s.follow start names = .error .tooLong) :
    ∃ name ∈ names, nameLimit < name.utf8ByteSize := by
  induction names generalizing start with
  | nil => cases h
  | cons name rest ih =>
      simp only [follow] at h
      split at h
      · cases h
      · cases h
      · split at h
        · rename_i hlong
          exact ⟨name, List.mem_cons_self, hlong⟩
        · obtain ⟨other, hother, hlong⟩ := ih h
          exact ⟨other, List.mem_cons_of_mem _ hother, hlong⟩

/-- A path that is refused for its length is too long, or a name in it is. -/
theorem long_of_resolve (h : s.resolve path = .error .tooLong) :
    pathLimit < path.display.utf8ByteSize ∨ ∃ name ∈ path.parts, nameLimit < name.utf8ByteSize := by
  unfold resolve at h
  split at h
  · cases h
  · split at h
    · rename_i hlong
      exact Or.inl hlong
    · cases hfollow : s.follow (s.start path) path.parts with
      | error fault =>
          simp only [hfollow, Except.error.injEq] at h
          subst h
          exact Or.inr (long_of_follow hfollow)
      | ok found =>
          simp only [hfollow] at h
          split at h <;> cases h

/-- What is found below a directory is reached by a path to the directory with its names behind
it. -/
theorem IsTree.resolve_append (htree : s.IsTree) {top : Entry}
    (hpath : s.resolve path = .ok (position, top)) (hbelow : (names, entry) ∈ s.below position)
    (hsize : (path.append names).display.utf8ByteSize ≤ pathLimit) :
    s.resolve (path.append names) = .ok (position ++ names, entry) := by
  obtain ⟨hnull, hfollow⟩ := follow_of_resolve hpath
  obtain ⟨hmem, hne⟩ := mem_below.mp hbelow
  have hnull' : (path.append names).hasNull = false := by
    have hnames : names.any (fun name => name.toList.contains '\x00') = false := by
      refine List.any_eq_false.mpr fun name hname => ?_
      simpa using (htree.names _ hmem name (List.mem_append_right _ hname)).2.1
    rw [Path.hasNull] at hnull
    rw [Path.hasNull, Path.append, List.any_append, hnull, hnames, Bool.or_self]
  have hfollow' : s.follow (s.start (path.append names)) (path.append names).parts =
      .ok (position ++ names) := by
    have hstart : s.start (path.append names) = s.start path := rfl
    rw [hstart, Path.append, follow_append, hfollow]
    exact htree.follow_of_mem hmem
  have hat := htree.at?_of_mem hmem (by simp [hne])
  simp only [resolve, hnull', Bool.false_eq_true, if_false, Nat.not_lt.mpr hsize, hfollow', hat]

end PluginOrder.Snapshot
