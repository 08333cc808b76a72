import PluginOrder.Proofs.Text.Words
import PluginOrder.Version.Shorthand

/-!
# Scanning a range

Before a range is read, a version is only looked for where it begins, and scanning goes on where it
ends.  Each of the scanners leaves an end of the text (`takePart?_append`, `afterLoose?_suffix`,
`afterPattern?_suffix`), so a substitution puts no character into a text that was not there
(`substitute_subset`), and one in which every match stands for itself changes nothing
(`substitute_eq_self`).

The rules that tidy a range take out blanks and write nothing of their own (`tidy_subset`).  A solid
text stays as it is under them (`tidy_eq_self`).
-/

namespace PluginOrder

open Text

variable {d : Dialect} {s rest : List Char}

/-! ## Numbers and parts -/

theorem takeNumber?_append {number : List Char} (h : takeNumber? d s = some (number, rest)) :
    number ++ rest = s := by
  cases s with
  | nil => cases d <;> cases h
  | cons c tail =>
      cases d with
      | strict =>
          simp only [takeNumber?] at h
          split at h
          · rename_i hzero
            cases h
            rw [hzero]
            rfl
          · split at h
            · cases h
              exact congrArg (c :: ·) List.takeWhile_append_dropWhile
            · cases h
      | loose =>
          simp only [takeNumber?] at h
          split at h
          · cases h
            exact congrArg (c :: ·) List.takeWhile_append_dropWhile
          · cases h

theorem takePart?_append {part : List Char} (h : takePart? d s = some (part, rest)) :
    part ++ rest = s := by
  unfold takePart? at h
  split at h
  · rename_i hnumber
    cases h
    exact takeNumber?_append hnumber
  · split at h
    · split at h
      · cases h
        rfl
      · cases h
    · cases h

theorem takeNumber?_suffix {number : List Char} (h : takeNumber? d s = some (number, rest)) :
    rest <:+ s :=
  ⟨number, takeNumber?_append h⟩

theorem takePart?_suffix {part : List Char} (h : takePart? d s = some (part, rest)) : rest <:+ s :=
  ⟨part, takePart?_append h⟩

/-- An operator is taken off the front. -/
theorem takeOperator_append (s : List Char) : (takeOperator s).1 ++ (takeOperator s).2 = s := by
  unfold takeOperator
  split <;> rfl

theorem takeOperator_suffix (s : List Char) : (takeOperator s).2 <:+ s :=
  ⟨(takeOperator s).1, takeOperator_append s⟩

namespace Shorthand

/-! ## Where a version ends -/

theorem afterIdentifier?_suffix (h : afterIdentifier? d s = some rest) : rest <:+ s := by
  unfold afterIdentifier? at h
  split at h
  · rename_i hnumber
    cases h
    exact takeNumber?_suffix hnumber
  · split at h
    · rename_i c tail hdrop
      split at h
      · cases h
        calc tail.dropWhile isIdentifierChar <:+ tail := List.dropWhile_suffix _
          _ <:+ c :: tail := List.suffix_cons c tail
          _ <:+ s := hdrop ▸ List.dropWhile_suffix _
      · cases h
    · cases h

theorem afterBuildIdentifier?_suffix (h : afterBuildIdentifier? s = some rest) : rest <:+ s := by
  unfold afterBuildIdentifier? at h
  split at h
  · rename_i c tail
    split at h
    · cases h
      exact (List.dropWhile_suffix _).trans (List.suffix_cons c tail)
    · cases h
  · cases h

theorem afterDotted_suffix {next : List Char → Option (List Char)}
    (hnext : ∀ s rest, next s = some rest → rest <:+ s) (n : Nat) (s : List Char) :
    afterDotted next n s <:+ s := by
  fun_induction afterDotted next n s with
  | case1 n tail rest hrest ih =>
      exact (ih.trans (hnext _ _ hrest)).trans (List.suffix_cons '.' tail)
  | case2 | case3 => exact List.suffix_refl _

theorem afterPre_suffix (d : Dialect) (s : List Char) : afterPre d s <:+ s := by
  have hdotted (d : Dialect) (s : List Char) :
      afterDotted (afterIdentifier? d) s.length s <:+ s :=
    afterDotted_suffix (fun _ _ => afterIdentifier?_suffix) _ _
  unfold afterPre
  split
  · rename_i tail
    split
    · rename_i rest hrest
      exact ((hdotted _ _).trans (afterIdentifier?_suffix hrest)).trans (List.suffix_cons '-' tail)
    · exact List.suffix_refl _
  · exact List.suffix_refl _
  · split
    · exact List.suffix_refl _
    · rename_i c tail
      split
      · rename_i rest hrest
        split at hrest
        · refine List.IsSuffix.trans ?_ (List.suffix_cons c tail)
          exact (hdotted _ _).trans (afterIdentifier?_suffix hrest)
        · cases hrest
      · split
        · exact ((hdotted _ _).trans (List.dropWhile_suffix _)).trans (List.suffix_cons c tail)
        · exact List.suffix_refl _

theorem afterBuild_suffix (s : List Char) : afterBuild s <:+ s := by
  unfold afterBuild
  split
  · rename_i tail
    split
    · rename_i rest hrest
      have hdotted := afterDotted_suffix (fun _ _ => afterBuildIdentifier?_suffix) rest.length rest
      exact (hdotted.trans (afterBuildIdentifier?_suffix hrest)).trans (List.suffix_cons '+' tail)
    · exact List.suffix_refl _
  · exact List.suffix_refl _

theorem afterPart?_suffix (h : afterPart? s = some rest) : rest <:+ s := by
  unfold afterPart? at h
  split at h
  · rename_i tail
    obtain ⟨⟨part, rest⟩, hpart, rfl⟩ := Option.map_eq_some_iff.mp h
    exact (takePart?_suffix hpart).trans (List.suffix_cons '.' tail)
  · cases h

theorem afterPattern?_suffix (h : afterPattern? s = some rest) : rest <:+ s := by
  unfold afterPattern? at h
  obtain ⟨⟨major, first⟩, hmajor, h⟩ := Option.bind_eq_some_iff.mp h
  have hfirst : first <:+ s := (takePart?_suffix hmajor).trans (List.dropWhile_suffix _)
  simp only at h
  split at h
  · cases h
    exact hfirst
  · rename_i second hminor
    have hsecond := (afterPart?_suffix hminor).trans hfirst
    split at h
    · cases h
      exact hsecond
    · rename_i third hpatch
      cases h
      exact (((afterBuild_suffix _).trans (afterPre_suffix _ _)).trans
        (afterPart?_suffix hpatch)).trans hsecond

theorem afterLoose?_suffix (h : afterLoose? s = some rest) : rest <:+ s := by
  unfold afterLoose? at h
  obtain ⟨⟨major, first⟩, hmajor, h⟩ := Option.bind_eq_some_iff.mp h
  have hfirst : first <:+ s := (takeNumber?_suffix hmajor).trans (List.dropWhile_suffix _)
  simp only at h
  split at h
  · rename_i tail
    obtain ⟨⟨minor, second⟩, hminor, h⟩ := Option.bind_eq_some_iff.mp h
    have hsecond : second <:+ s :=
      ((takeNumber?_suffix hminor).trans (List.suffix_cons '.' tail)).trans hfirst
    simp only at h
    split at h
    · rename_i tail
      obtain ⟨⟨patch, third⟩, hpatch, h⟩ := Option.bind_eq_some_iff.mp h
      cases h
      exact ((((afterBuild_suffix _).trans (afterPre_suffix _ _)).trans
        (takeNumber?_suffix hpatch)).trans (List.suffix_cons '.' tail)).trans hsecond
    · cases h
  · cases h

end Shorthand

/-! ## Substitution -/

namespace Text

/-- Where every match is made of characters of the text, so is the result. -/
theorem substitute_subset (rule : List Char → Option (List Char × List Char)) (s : List Char)
    (h : ∀ s image rest, rule s = some (image, rest) → image ⊆ s ∧ rest ⊆ s) :
    substitute rule s ⊆ s := by
  suffices hturn : ∀ n s, substitute.turn rule n s ⊆ s from hturn _ _
  intro n
  induction n with
  | zero => exact fun s => List.Subset.refl s
  | succ n ih =>
      intro s
      cases s with
      | nil => exact List.Subset.refl _
      | cons c tail =>
          simp only [substitute.turn]
          split
          · rename_i image rest hmatch
            obtain ⟨himage, hrest⟩ := h _ _ _ hmatch
            exact List.append_subset.mpr ⟨himage, List.Subset.trans (ih rest) hrest⟩
          · exact List.cons_subset_cons c (ih tail)

/-- Where every match stands for itself, nothing changes. -/
theorem substitute_eq_self {rule : List Char → Option (List Char × List Char)} {s : List Char}
    (h : ∀ t image rest, t <:+ s → rule t = some (image, rest) → image ++ rest = t) :
    substitute rule s = s := by
  suffices hturn : ∀ n t, t <:+ s → substitute.turn rule n t = t from hturn _ _ (List.suffix_refl s)
  intro n
  induction n with
  | zero => exact fun t _ => rfl
  | succ n ih =>
      intro t ht
      cases t with
      | nil => rfl
      | cons c tail =>
          simp only [substitute.turn]
          split
          · rename_i image rest hmatch
            -- the match is written back, and what is left is again an end of the whole text
            have happend := h _ _ _ ht hmatch
            have hrest : rest <:+ s := List.IsSuffix.trans ⟨image, happend⟩ ht
            rw [ih rest hrest, happend]
          · rw [ih tail ((List.suffix_cons c tail).trans ht)]

end Text

/-! ## Tidying -/

namespace Shorthand

variable {image : List Char}

theorem closeOperator_eq_some (h : closeOperator s = some (image, rest)) :
    ∃ written, written ++ rest = trimStart (takeOperator (trimStart s)).2 ∧
      image = s.takeWhile isBlank ++ (takeOperator (trimStart s)).1 ++ written := by
  obtain ⟨after, hafter, heq⟩ := Option.map_eq_some_iff.mp h
  obtain ⟨himage, hrest⟩ := Prod.mk.inj heq
  subst hrest
  have hsuffix : after <:+ trimStart (takeOperator (trimStart s)).2 := by
    split at hafter
    · rename_i other hloose
      cases hafter
      exact afterLoose?_suffix hloose
    · exact afterPattern?_suffix hafter
  obtain ⟨written, hwritten⟩ := hsuffix
  have htake : (trimStart (takeOperator (trimStart s)).2).take
      ((trimStart (takeOperator (trimStart s)).2).length - after.length) = written := by
    rw [← hwritten, List.length_append, Nat.add_sub_cancel, List.take_left]
  refine ⟨written, hwritten, ?_⟩
  rw [← htake]
  exact himage.symm

theorem closeTilde_eq_some (h : closeTilde s = some (image, rest)) :
    image = s.takeWhile isBlank ++ ['~'] ∧ '~' ∈ s ∧ rest <:+ s ∧ ∃ b ∈ s, isBlank b = true := by
  have hstart := trimStart_suffix s
  -- the two ways to write the mark leave the same rest
  have hclosed : ∀ b tail, '~' ∈ s → b :: tail <:+ s → isBlank b = true →
      some (s.takeWhile isBlank ++ ['~'], trimStart tail) = some (image, rest) →
      image = s.takeWhile isBlank ++ ['~'] ∧ '~' ∈ s ∧ rest <:+ s ∧ ∃ b ∈ s, isBlank b = true := by
    intro b tail hmark ht hb hsame
    cases hsame
    have htail := (List.suffix_cons b tail).trans ht
    exact ⟨rfl, hmark, (trimStart_suffix tail).trans htail, b, ht.subset List.mem_cons_self, hb⟩
  unfold closeTilde at h
  dsimp only at h
  split at h
  · rename_i tail hs
    rw [hs] at hstart
    have htail := (List.suffix_append ['~', '>'] tail).trans hstart
    split at h
    · split at h
      · exact hclosed _ _ (hstart.subset List.mem_cons_self) htail ‹_› h
      · cases h
    · cases h
  · rename_i tail _ hs
    rw [hs] at hstart
    have htail := (List.suffix_cons '~' tail).trans hstart
    split at h
    · split at h
      · exact hclosed _ _ (hstart.subset List.mem_cons_self) htail ‹_› h
      · cases h
    · cases h
  · cases h

theorem closeCaret_eq_some (h : closeCaret s = some (image, rest)) :
    image = s.takeWhile isBlank ++ ['^'] ∧ '^' ∈ s ∧ rest <:+ s ∧ ∃ b ∈ s, isBlank b = true := by
  have hstart := trimStart_suffix s
  unfold closeCaret at h
  split at h
  · rename_i b tail hs
    rw [hs] at hstart
    split at h
    · rename_i hb
      cases h
      have htail := (List.suffix_append ['^', b] tail).trans hstart
      have hmem : b ∈ '^' :: b :: tail := List.mem_cons_of_mem _ List.mem_cons_self
      exact ⟨rfl, hstart.subset List.mem_cons_self, (trimStart_suffix tail).trans htail, b,
        hstart.subset hmem, hb⟩
    · cases h
  · cases h

theorem dropStar_eq_some (h : dropStar s = some (image, rest)) :
    image = [] ∧ '*' ∈ s ∧ rest <:+ s := by
  unfold dropStar at h
  split at h
  · rename_i tail hs
    cases h
    have hstart : '*' :: rest <:+ s :=
      hs ▸ (trimStart_suffix (takeOperator s).2).trans (takeOperator_suffix s)
    exact ⟨rfl, hstart.subset List.mem_cons_self, (List.suffix_cons '*' rest).trans hstart⟩
  · cases h

/-- The rules that tidy a range, one after the other. -/
def tidy (s : List Char) : List Char :=
  substitute closeCaret (substitute closeTilde (substitute closeOperator s))

theorem tidy_subset (s : List Char) : tidy s ⊆ s := by
  have hlead (s : List Char) : s.takeWhile isBlank ⊆ s := (List.takeWhile_prefix _).subset
  have hoperator := substitute_subset closeOperator s fun s image rest h => by
    obtain ⟨written, hwritten, himage⟩ := closeOperator_eq_some h
    have hinner := (trimStart_suffix _).trans ((takeOperator_suffix _).trans (trimStart_suffix s))
    rw [← hwritten] at hinner
    obtain ⟨hinner, hrest⟩ := List.append_subset.mp hinner.subset
    refine ⟨?_, hrest⟩
    rw [himage]
    refine List.append_subset.mpr ⟨List.append_subset.mpr ⟨hlead s, ?_⟩, hinner⟩
    have hfront : (takeOperator (trimStart s)).1 <+: trimStart s := ⟨_, takeOperator_append _⟩
    exact List.Subset.trans hfront.subset (trimStart_suffix s).subset
  -- the blanks in front and the mark itself stay, so nothing new is written
  have htilde := substitute_subset closeTilde (substitute closeOperator s)
    fun s image rest h => by
      obtain ⟨himage, hmark, hrest, -⟩ := closeTilde_eq_some h
      refine ⟨?_, hrest.subset⟩
      rw [himage]
      exact List.append_subset.mpr ⟨hlead s, List.cons_subset.mpr ⟨hmark, List.nil_subset _⟩⟩
  have hcaret := substitute_subset closeCaret (substitute closeTilde (substitute closeOperator s))
    fun s image rest h => by
      obtain ⟨himage, hmark, hrest, -⟩ := closeCaret_eq_some h
      refine ⟨?_, hrest.subset⟩
      rw [himage]
      exact List.append_subset.mpr ⟨hlead s, List.cons_subset.mpr ⟨hmark, List.nil_subset _⟩⟩
  exact List.Subset.trans hcaret (List.Subset.trans htilde hoperator)

/-- A solid text is tidy. -/
theorem tidy_eq_self (h : Solid s) : tidy s = s := by
  have hnone : ¬ ∃ b ∈ s, isBlank b = true := by
    rintro ⟨b, hb, hblank⟩
    exact Bool.false_ne_true ((h b hb).symm.trans hblank)
  have hoperator : substitute closeOperator s = s := by
    apply substitute_eq_self
    intro t image rest ht hmatch
    obtain ⟨written, hwritten, himage⟩ := closeOperator_eq_some hmatch
    have hsolid : Solid t := h.of_suffix ht
    -- there are no blanks to take away, so the operator is closed as it stands
    have hlead : t.takeWhile isBlank = [] := by
      cases t with
      | nil => rfl
      | cons c tail => simp [(solid_cons.mp hsolid).1]
    rw [hsolid.trimStart_eq] at hwritten himage
    rw [(hsolid.of_suffix (takeOperator_suffix t)).trimStart_eq] at hwritten
    rw [himage, hlead, List.nil_append, List.append_assoc, hwritten, takeOperator_append]
  have htilde : substitute closeTilde s = s := by
    apply substitute_eq_self
    intro t image rest ht hmatch
    obtain ⟨-, -, -, b, hb, hblank⟩ := closeTilde_eq_some hmatch
    exact absurd ⟨b, ht.subset hb, hblank⟩ hnone
  have hcaret : substitute closeCaret s = s := by
    apply substitute_eq_self
    intro t image rest ht hmatch
    obtain ⟨-, -, -, b, hb, hblank⟩ := closeCaret_eq_some hmatch
    exact absurd ⟨b, ht.subset hb, hblank⟩ hnone
  rw [tidy, hoperator, htilde, hcaret]

end Shorthand

end PluginOrder
