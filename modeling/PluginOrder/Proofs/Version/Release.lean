import PluginOrder.Proofs.Version.Scanning
import PluginOrder.Version.Range

/-!
# Ranges that let in no pre-release

The strict dialect sets a pre-release off with a dash, so a pattern without a dash names none
(`dashless_of_readCore?`).  A range without a dash is spelled out in comparators: it is no hyphen
range, tidying and cutting write nothing of their own, and carets, tildes and wildcards write
numbers, operators and blanks.  Each of these steps keeps a text free of dashes, and so each
comparator in the end reads as a bound that is a release (`opensPrerelease_of_read?`).

A pre-release is let in only by a bound that is one.  What satisfies a range without a dash is
therefore a release (`release_of_satisfies`).
-/

namespace PluginOrder

open Text

variable {s t : List Char}

/-! ## Versions as they are written -/

theorem readPre?_of_dashless {pre : Option (List Char)} (hs : '-' ∉ s)
    (h : readPre? .strict s = some pre) : pre = none := by
  cases s with
  | nil => exact (Option.some_inj.mp h).symm
  | cons c rest =>
      simp only [readPre?] at h
      split at h
      · rename_i hdash
        exact absurd (hdash.1 ▸ List.mem_cons_self) hs
      · cases h

theorem readTail?_of_dashless {pre : Option (List Char)} (hs : '-' ∉ s)
    (h : readTail? .strict s = some pre) : pre = none := by
  have hfront : '-' ∉ (cut '+' s).1 := fun hmem => hs ((isPrefix_cut '+' s).subset hmem)
  unfold readTail? at h
  split at h
  · rename_i hcut
    rw [hcut] at hfront
    exact readPre?_of_dashless hfront h
  · rename_i hcut
    rw [hcut] at hfront
    split at h
    · exact readPre?_of_dashless hfront h
    · cases h

namespace Pattern

open Shorthand (part)

/-- There is no dash in the parts of a pattern, and no pre-release. -/
structure Dashless (p : Pattern) : Prop where
  major : '-' ∉ p.major
  minor : '-' ∉ part p.minor
  patch : '-' ∉ part p.patch
  pre_eq : p.pre = none

theorem dashless_of_readCore? {p : Pattern} (hs : '-' ∉ s) (h : readCore? .strict s = some p) :
    p.Dashless := by
  have hnone : '-' ∉ part none := List.not_mem_nil
  unfold readCore? at h
  obtain ⟨⟨major, second⟩, hmajor, h⟩ := Option.bind_eq_some_iff.mp h
  rw [← takePart?_append hmajor, List.mem_append, not_or] at hs
  simp only at h
  split at h
  · cases h
    exact ⟨hs.1, hnone, hnone, rfl⟩
  · obtain ⟨⟨minor, third⟩, hminor, h⟩ := Option.bind_eq_some_iff.mp h
    rw [List.mem_cons, not_or, ← takePart?_append hminor, List.mem_append, not_or] at hs
    simp only at h
    split at h
    · cases h
      exact ⟨hs.1, hs.2.2.1, hnone, rfl⟩
    · obtain ⟨⟨patch, tail⟩, hpatch, h⟩ := Option.bind_eq_some_iff.mp h
      rw [List.mem_cons, not_or, ← takePart?_append hpatch, List.mem_append, not_or] at hs
      obtain ⟨pre, hpre, h⟩ := Option.bind_eq_some_iff.mp h
      cases h
      obtain ⟨hmajor, -, hminor, -, hpatch, htail⟩ := hs
      -- only a dash begins a pre-release, so there is none in the tail
      exact ⟨hmajor, hminor, hpatch, readTail?_of_dashless htail hpre⟩
    · cases h
  · cases h

theorem dashless_of_read? {p : Pattern} (hs : '-' ∉ s) (h : read? .strict s = some p) :
    p.Dashless :=
  dashless_of_readCore? (fun hmem => hs ((List.dropWhile_suffix _).subset hmem)) h

end Pattern

theorem Version.pre_eq_nil_of_ofPattern? {p : Pattern} {v : Version} (hp : p.pre = none)
    (h : ofPattern? p = some v) : v.pre = [] := by
  simp only [ofPattern?, hp, Option.bind_eq_bind, Option.bind_eq_some_iff, Option.bind_some,
    Option.some.injEq] at h
  obtain ⟨major, -, minor, -, minor', -, patch, -, patch', -, rfl⟩ := h
  rfl

theorem Version.dashless_of_readWritten? {p : Pattern} (hs : '-' ∉ s)
    (h : readWritten? .strict s = some p) : p.Dashless := by
  obtain ⟨q, hq, h⟩ := Option.bind_eq_some_iff.mp h
  obtain ⟨minor, -, h⟩ := Option.bind_eq_some_iff.mp h
  obtain ⟨patch, -, h⟩ := Option.bind_eq_some_iff.mp h
  split at h
  · cases h
  · cases h
    refine Pattern.dashless_of_readCore? ?_ hq
    split
    · exact fun hmem => hs (List.mem_cons_of_mem _ hmem)
    · exact hs
    · rename_i hcontra
      cases hcontra

/-- A comparator that is written without a dash lets in no pre-release. -/
theorem Comparator.opensPrerelease_of_read? {comparator : Comparator} (hs : '-' ∉ s)
    (h : read? .strict s = some comparator) (v : Version) :
    comparator.opensPrerelease v = false := by
  unfold read? at h
  split at h
  · cases h
  · cases h
    rfl
  · rename_i operator p hwritten
    obtain ⟨w, hw, rfl⟩ := Option.map_eq_some_iff.mp h
    -- the version of a comparator is written after its operator, without a dash
    have hpre : p.pre = none := by
      unfold readWritten? at hwritten
      split at hwritten
      · cases hwritten
      · simp only [Option.map_eq_some_iff] at hwritten
        obtain ⟨q, hq, heq⟩ := hwritten
        cases heq
        refine (Version.dashless_of_readWritten? ?_ hq).pre_eq
        exact fun hmem => hs ((takeOperator_suffix s).subset ((trimStart_suffix _).subset hmem))
    have hrelease : w.pre = [] := Version.pre_eq_nil_of_ofPattern? hpre hw
    simp [opensPrerelease, Version.isPrerelease, hrelease]

/-! ## Shorthands -/

namespace Shorthand

variable {p : Pattern} {a b c lower : List Char}

theorem dashless_successor? {digits : List Char} (h : successor? digits = some t) : '-' ∉ t := by
  obtain ⟨n, -, hshow⟩ := Option.bind_eq_some_iff.mp h
  unfold showNat? at hshow
  split at hshow
  · cases hshow
  · cases hshow
    exact not_mem_showNat (by decide)

theorem dashless_zero : '-' ∉ zero := by decide

theorem dashless_triple (ha : '-' ∉ a) (hb : '-' ∉ b) (hc : '-' ∉ c) : '-' ∉ triple a b c := by
  simp [triple, ha, hb, hc]

theorem dashless_atLeast (ha : '-' ∉ a) (hb : '-' ∉ b) (hc : '-' ∉ c) :
    '-' ∉ atLeast a b c none := by
  simp [atLeast, dashless_triple ha hb hc]

/-- Two bounds, the upper one with a number that is raised by one. -/
theorem dashless_bounds {digits : List Char} {upper : List Char → List Char} (hlower : '-' ∉ lower)
    (hupper : ∀ next, '-' ∉ next → '-' ∉ upper next)
    (h : (do some (both lower ('<' :: upper (← successor? digits)))) = some t) : '-' ∉ t := by
  obtain ⟨next, hnext, h⟩ := Option.bind_eq_some_iff.mp h
  cases h
  simp [both, hlower, hupper next (dashless_successor? hnext)]

theorem dashless_caret? (hp : p.Dashless) (h : caret? p = some t) : '-' ∉ t := by
  obtain ⟨hmajor, hminor, hpatch, hpre⟩ := hp
  have hzero := dashless_zero
  unfold caret? at h
  rw [hpre] at h
  simp only at h
  -- the upper bound is the successor of a part, with zeros behind it
  split at h
  · cases h
    exact List.not_mem_nil
  · split at h
    · exact dashless_bounds (dashless_atLeast hmajor hzero hzero)
        (fun _ hnext => dashless_triple hnext hzero hzero) h
    · split at h
      · split at h
        · exact dashless_bounds (dashless_atLeast hmajor hminor hzero)
            (fun _ hnext => dashless_triple hmajor hnext hzero) h
        · exact dashless_bounds (dashless_atLeast hmajor hminor hzero)
            (fun _ hnext => dashless_triple hnext hzero hzero) h
      · have hlower := dashless_atLeast hmajor hminor hpatch
        split at h
        · split at h
          · exact dashless_bounds hlower (fun _ hnext => dashless_triple hmajor hminor hnext) h
          · exact dashless_bounds hlower (fun _ hnext => dashless_triple hmajor hnext hzero) h
        · exact dashless_bounds hlower (fun _ hnext => dashless_triple hnext hzero hzero) h

theorem dashless_tilde? (hp : p.Dashless) (h : tilde? p = some t) : '-' ∉ t := by
  obtain ⟨hmajor, hminor, hpatch, hpre⟩ := hp
  have hzero := dashless_zero
  unfold tilde? at h
  rw [hpre, ite_self] at h
  simp only at h
  split at h
  · cases h
    exact List.not_mem_nil
  · split at h
    · exact dashless_bounds (dashless_atLeast hmajor hzero hzero)
        (fun _ hnext => dashless_triple hnext hzero hzero) h
    · refine dashless_bounds (dashless_atLeast hmajor hminor ?_)
        (fun _ hnext => dashless_triple hmajor hnext hzero) h
      split
      · exact hzero
      · exact hpatch

theorem dashless_wildcardAfter? {operator : List Char} (hoperator : '-' ∉ operator)
    (hp : p.Dashless)
    (h : wildcardAfter? operator p = some t) : '-' ∉ t := by
  have hzero := dashless_zero
  have hminor : '-' ∉ if Pattern.isOpen p.minor then zero else part p.minor := by
    split
    · exact hzero
    · exact hp.minor
  -- the line after the one that the pattern names is written with a number that is raised by one
  have hnext : ∀ next, (if Pattern.isOpen p.minor then (successor? p.major).map (·, zero)
      else (successor? (if Pattern.isOpen p.minor then zero else part p.minor)).map (p.major, ·)) =
        some next → '-' ∉ next.1 ∧ '-' ∉ next.2 := by
    intro next hnext
    split at hnext
    · obtain ⟨major, hmajor, rfl⟩ := Option.map_eq_some_iff.mp hnext
      exact ⟨dashless_successor? hmajor, hzero⟩
    · obtain ⟨minor, hminor, rfl⟩ := Option.map_eq_some_iff.mp hnext
      exact ⟨hp.major, dashless_successor? hminor⟩
  unfold wildcardAfter? at h
  simp only at h
  split at h
  · obtain ⟨next, hline, h⟩ := Option.bind_eq_some_iff.mp h
    cases h
    have htriple := dashless_triple (hnext next hline).1 (hnext next hline).2 hzero
    simp [htriple]
  · split at h
    · obtain ⟨next, hline, h⟩ := Option.bind_eq_some_iff.mp h
      cases h
      have htriple := dashless_triple (hnext next hline).1 (hnext next hline).2 hzero
      simp [htriple]
    · cases h
      simp [hoperator, dashless_triple hp.major hminor hzero]

theorem dashless_wildcard? {text operator : List Char} (htext : '-' ∉ text)
    (hoperator : '-' ∉ operator) (hp : p.Dashless) (h : wildcard? text operator p = some t) :
    '-' ∉ t := by
  unfold wildcard? at h
  split at h
  · cases h
    split
    · decide
    · decide
  · split at h
    · cases h
      exact htext
    · split at h
      · exact dashless_wildcardAfter? hoperator hp h
      · have hbare : Pattern.Dashless { p with pre := none } := ⟨hp.major, hp.minor, hp.patch, rfl⟩
        exact dashless_tilde? hbare h

/-! ## Expansion -/

theorem dashless_mapWords? {f : List Char → Option (List Char)} (hs : '-' ∉ s)
    (hf : ∀ word image, '-' ∉ word → f word = some image → '-' ∉ image)
    (h : mapWords? f s = some t) : '-' ∉ t := by
  obtain ⟨images, himages, rfl⟩ := Option.map_eq_some_iff.mp h
  intro hmem
  rcases mem_join hmem with hsep | ⟨image, himage, hdash⟩
  · revert hsep
    decide
  · obtain ⟨word, hword, hf'⟩ := exists_of_mem_mapM himages himage
    have hdashless : '-' ∉ word := fun hmem => hs (trim_subset s (words_subset _ word hword hmem))
    exact hf word image hdashless hf' hdash

theorem dashless_expandCarets? (hs : '-' ∉ s) (h : expandCarets? .strict s = some t) : '-' ∉ t := by
  apply dashless_mapWords? hs _ h
  intro word image hword himage
  split at himage
  · split at himage
    · rename_i rest p hp
      exact dashless_caret? (Pattern.dashless_of_read? (List.not_mem_of_not_mem_cons hword) hp)
        himage
    · cases himage
      exact hword
  · cases himage
    exact hword

theorem dashless_expandTildes? (hs : '-' ∉ s) (h : expandTildes? .strict s = some t) : '-' ∉ t := by
  apply dashless_mapWords? hs _ h
  intro word image hword himage
  simp only at himage
  split at himage
  · have hrest := List.not_mem_of_not_mem_cons (List.not_mem_of_not_mem_cons hword)
    split at himage
    · rename_i p hp
      exact dashless_tilde? (Pattern.dashless_of_read? hrest hp) himage
    · cases himage
      exact hword
  · have hrest := List.not_mem_of_not_mem_cons hword
    split at himage
    · rename_i p hp
      exact dashless_tilde? (Pattern.dashless_of_read? hrest hp) himage
    · cases himage
      exact hword
  · cases himage
    exact hword

theorem dashless_expandWildcards? (hs : '-' ∉ s) (h : expandWildcards? .strict s = some t) :
    '-' ∉ t := by
  apply dashless_mapWords? hs _ h
  intro word image hword himage
  rw [← takeOperator_append word, List.mem_append, not_or] at hword
  obtain ⟨hoperator, hrest⟩ := hword
  simp only at himage
  split at himage
  · rename_i p hp
    refine dashless_wildcard? ?_ hoperator (Pattern.dashless_of_read? hrest hp) himage
    rw [← takeOperator_append word, List.mem_append, not_or]
    exact ⟨hoperator, hrest⟩
  · cases himage
    rw [← takeOperator_append word, List.mem_append, not_or]
    exact ⟨hoperator, hrest⟩

theorem dashless_expand? (hs : '-' ∉ s) (h : expand? .strict s = some t) : '-' ∉ t := by
  obtain ⟨carets, hcarets, h⟩ := Option.bind_eq_some_iff.mp h
  obtain ⟨tildes, htildes, h⟩ := Option.bind_eq_some_iff.mp h
  obtain ⟨wildcards, hwildcards, h⟩ := Option.bind_eq_some_iff.mp h
  cases h
  have hwild : '-' ∉ wildcards :=
    dashless_expandWildcards? (dashless_expandTildes? (dashless_expandCarets? hs hcarets) htildes)
      hwildcards
  have hdrop := substitute_subset dropStar (trim wildcards) fun s image rest h => by
    obtain ⟨rfl, -, hrest⟩ := dropStar_eq_some h
    exact ⟨List.nil_subset s, hrest.subset⟩
  exact fun hmem => hwild (trim_subset _ (hdrop hmem))

/-- A hyphen range is written with a dash. -/
theorem expandHyphen?_of_dashless (hs : '-' ∉ s) : expandHyphen? .strict s = some s := by
  have hnone : hyphenSides? .strict s = none := by
    unfold hyphenSides?
    simp only
    split
    · rename_i hstart
      refine absurd ?_ hs
      have hdash := (trimStart_suffix _).subset (hstart ▸ List.mem_cons_self)
      exact (List.dropWhile_suffix _).subset ((List.dropWhile_suffix _).subset hdash)
    · rfl
  rw [expandHyphen?, hnone]

theorem dashless_comparators? {texts : List (List Char)} (hs : '-' ∉ s)
    (h : comparators? .strict s = some texts) : ∀ text ∈ texts, '-' ∉ text := by
  have htrim : '-' ∉ trim s := fun hmem => hs (trim_subset s hmem)
  obtain ⟨pieces, hpieces, h⟩ := Option.bind_eq_some_iff.mp h
  obtain ⟨expanded, hexpanded, h⟩ := Option.bind_eq_some_iff.mp h
  cases h
  rw [pieces?, expandHyphen?_of_dashless htrim] at hpieces
  cases hpieces
  intro text htext hmem
  rcases mem_join (words_subset _ text htext hmem) with hsep | ⟨image, himage, hdash⟩
  · revert hsep
    decide
  · obtain ⟨piece, hpiece, hexpand⟩ := exists_of_mem_mapM hexpanded himage
    have hdashless : '-' ∉ piece := fun hmem =>
      htrim (tidy_subset _ (words_subset _ piece hpiece hmem))
    exact dashless_expand? hdashless hexpand hdash

end Shorthand

/-! ## Ranges -/

theorem Range.splitBars_subset (s : List Char) : ∀ piece ∈ splitBars s, piece ⊆ s := by
  fun_induction splitBars s with
  | case1 rest ih =>
      refine List.forall_mem_cons.mpr ⟨List.nil_subset _, fun piece hpiece => ?_⟩
      exact List.Subset.trans (ih piece hpiece) (List.suffix_append ['|', '|'] rest).subset
  | case2 c rest _ ih => exact consHead_subset ih
  | case3 => simp

/-- No comparator of a range without a dash lets in a pre-release. -/
theorem Range.opensPrerelease_of_read? {r : Range} (hs : '-' ∉ s) (h : read? .strict s = some r) :
    ∀ alternative ∈ r, ∀ comparator ∈ alternative, ∀ v, comparator.opensPrerelease v = false := by
  obtain ⟨alternatives, halternatives, h⟩ := Option.bind_eq_some_iff.mp h
  have hr : r ⊆ alternatives := by
    simp only at h
    split at h
    · cases h
    · cases h
      exact List.filter_subset_self alternatives
  intro alternative halternative comparator hcomparator
  obtain ⟨piece, hpiece, hread⟩ := exists_of_mem_mapM halternatives (hr halternative)
  have hdashless : '-' ∉ piece := fun hmem => hs (splitBars_subset s piece hpiece hmem)
  obtain ⟨texts, htexts, hread⟩ := Option.bind_eq_some_iff.mp hread
  obtain ⟨text, htext, hcomparator⟩ := exists_of_mem_mapM hread hcomparator
  have htext := Shorthand.dashless_comparators? hdashless htexts text htext
  exact Comparator.opensPrerelease_of_read? htext hcomparator

/-- What satisfies a range without a dash is a release. -/
theorem release_of_satisfies {version range : List Char} (hrange : '-' ∉ range)
    (h : satisfies .strict false version range = true) :
    ∃ v, Version.read? .strict version = some v ∧ v.isPrerelease = false := by
  unfold satisfies at h
  split at h
  · rename_i v r hv hr
    refine ⟨v, hv, ?_⟩
    obtain ⟨alternative, halternative, hadmits⟩ := List.any_eq_true.mp h
    -- no comparator lets in a pre-release, so only the first way to pass is left
    have hclosed : alternative.any (·.opensPrerelease v) = false := by
      rw [List.any_eq_false]
      intro comparator hmem
      simp [Range.opensPrerelease_of_read? hrange hr alternative halternative comparator hmem v]
    rw [admitsAll, hclosed, Bool.or_false, Bool.or_false, Bool.and_eq_true,
      Bool.not_eq_true'] at hadmits
    exact hadmits.2
  · cases h

end PluginOrder
