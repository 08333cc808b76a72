import PluginOrder.Proofs.Version.Release

/-!
# How a caret and a tilde are spelled out

The three numbers of a version, written with dots between them, are read as these numbers
(`read?_dotted`).  After a caret or a tilde they are spelled out in two bounds with a blank between
them, the version itself and the first version of the next line (`caret?_written`,
`tilde?_written`).  All that follows leaves these bounds as they are (`expand_window`), so they are
the comparators of the range (`read?_caret`, `read?_tilde`), unless a number has more digits than
can be read or written.
-/

namespace PluginOrder

open Text

variable {s t : List Char} {v w : Version}

/-! ## Three numbers -/

theorem takeNumber?_showNat (n : Nat) (ht : ∀ c ∈ t.head?, isDigit c = false) :
    takeNumber? .strict (showNat n ++ t) = some (showNat n, t) := by
  rcases Nat.eq_zero_or_pos n with rfl | hpos
  · rfl
  · obtain ⟨c, rest, hshow⟩ := List.exists_cons_of_ne_nil (showNat_ne_nil n)
    have hdigits : ∀ d ∈ c :: rest, isAsciiDigit d = true := fun d hd =>
      isAsciiDigit_of_mem_showNat (hshow ▸ hd)
    obtain ⟨hc, hrest⟩ := List.forall_mem_cons.mp hdigits
    have hzero : c ≠ '0' := by
      rintro rfl
      exact head?_showNat hpos (by rw [hshow]; rfl)
    -- a number in front of others begins with a digit from 1 on, and with all its digits is taken
    -- whole
    have hone : '1' ≤ c ∧ c ≤ '9' := by
      obtain ⟨hlow, hhigh⟩ := toNat_of_isAsciiDigit hc
      have hne : c.toNat ≠ 48 := fun heq => hzero (Char.ext (UInt32.toNat_inj.mp heq))
      exact ⟨show 49 ≤ c.toNat by omega, hhigh⟩
    have hrun : ∀ d ∈ rest, isDigit d = true := fun d hd => isDigit_of_isAsciiDigit (hrest d hd)
    have hstop : t.takeWhile isDigit = [] ∧ t.dropWhile isDigit = t := by
      cases t with
      | nil => exact ⟨rfl, rfl⟩
      | cons d tail => simp [ht d rfl]
    rw [hshow, List.cons_append, takeNumber?, if_neg hzero, if_pos hone,
      List.takeWhile_append_of_pos hrun, List.dropWhile_append_of_pos hrun, hstop.1, hstop.2,
      List.append_nil]

theorem takePart?_showNat (n : Nat) (ht : ∀ c ∈ t.head?, isDigit c = false) :
    takePart? .strict (showNat n ++ t) = some (showNat n, t) := by
  unfold takePart?
  rw [takeNumber?_showNat n ht]

theorem isWildcard_showNat (n : Nat) : isWildcard (showNat n) = false := by
  rw [Bool.eq_false_iff]
  intro hwild
  have hmark : ∀ c, isAsciiDigit c = false → showNat n ≠ [c] := by
    intro c hc heq
    exact not_mem_showNat hc (heq ▸ List.mem_singleton_self c)
  simp only [isWildcard, Bool.or_eq_true, beq_iff_eq] at hwild
  rcases hwild with (hx | hX) | hstar
  · exact hmark 'x' (by decide) hx
  · exact hmark 'X' (by decide) hX
  · exact hmark '*' (by decide) hstar

namespace Version

/-- The three numbers of a version with dots between them. -/
def dotted (v : Version) : List Char :=
  Shorthand.triple (showNat v.major) (showNat v.minor) (showNat v.patch)

/-- The pattern of the three numbers of a version. -/
def written (v : Version) : Pattern :=
  ⟨showNat v.major, some (showNat v.minor), some (showNat v.patch), none⟩

theorem not_mem_dotted {c : Char} (h : isAsciiDigit c = false) (hdot : c ≠ '.') : c ∉ v.dotted := by
  simp [dotted, Shorthand.triple, not_mem_showNat h, hdot]

theorem solid_dotted (v : Version) : Solid v.dotted := by
  simp [dotted, Shorthand.triple, solid_showNat, isBlank]

/-- The numbers begin with a digit. -/
theorem dotted_eq_cons (v : Version) : ∃ c rest, v.dotted = c :: rest ∧ isAsciiDigit c = true := by
  obtain ⟨c, rest, hshow⟩ := List.exists_cons_of_ne_nil (showNat_ne_nil v.major)
  have hc : isAsciiDigit c = true := isAsciiDigit_of_mem_showNat (hshow ▸ List.mem_cons_self)
  refine ⟨c, rest ++ '.' :: showNat v.minor ++ '.' :: showNat v.patch, ?_, hc⟩
  rw [dotted, Shorthand.triple, hshow]
  rfl

theorem readCore?_dotted (v : Version) : Pattern.readCore? .strict v.dotted = some v.written := by
  have hdot (t : List Char) : ∀ c ∈ ('.' :: t).head?, isDigit c = false := by
    intro c hc
    cases hc
    decide
  have hpatch := takePart?_showNat (t := []) v.patch (fun c hc => by cases hc)
  rw [List.append_nil] at hpatch
  rw [dotted, Shorthand.triple, List.append_assoc, List.cons_append, Pattern.readCore?,
    takePart?_showNat _ (hdot _)]
  simp only [Option.bind_eq_bind, Option.bind_some, takePart?_showNat _ (hdot _), hpatch]
  rfl

theorem isVersionLead_of_isAsciiDigit {c : Char} (h : isAsciiDigit c = true) :
    isVersionLead c = false := by
  have hmark : ∀ d, isAsciiDigit d = false → (c == d) = false := by
    intro d hd
    exact beq_eq_false_iff_ne.mpr (ne_of_isAsciiDigit h hd)
  rw [isVersionLead, hmark 'v' (by decide), hmark '=' (by decide), isBlank_of_isAsciiDigit h]
  rfl

theorem read?_dotted (v : Version) : Pattern.read? .strict v.dotted = some v.written := by
  obtain ⟨c, rest, hcons, hdigit⟩ := v.dotted_eq_cons
  have hlead : v.dotted.dropWhile isVersionLead = v.dotted := by
    rw [hcons]
    exact List.dropWhile_cons_of_neg (by simp [isVersionLead_of_isAsciiDigit hdigit])
  rw [Pattern.read?, hlead, readCore?_dotted]

theorem readWritten?_dotted (v : Version) : readWritten? .strict v.dotted = some v.written := by
  obtain ⟨c, rest, hcons, hdigit⟩ := v.dotted_eq_cons
  have hcore := v.readCore?_dotted
  rw [hcons] at hcore ⊢
  unfold readWritten?
  split
  · rename_i hletter
    exact absurd (List.cons.inj hletter).1 (ne_of_isAsciiDigit hdigit (by decide))
  · simp only [hcore, Option.bind_eq_bind, Option.bind_some]
    simp [written, isWildcard_showNat]
  · rename_i hcontra
    cases hcontra

/-- The release with the numbers of a version. -/
def release (v : Version) : Version := { v with pre := [] }

/-- What is read from three numbers is the release with these numbers. -/
theorem eq_of_ofPattern?_written (h : ofPattern? v.written = some w) : w = v.release := by
  simp only [ofPattern?, written, Option.bind_eq_bind, Option.bind_eq_some_iff, Option.bind_some,
    Option.some.injEq] at h
  obtain ⟨major, hmajor, minor, hminor, patch, hpatch, rfl⟩ := h
  rw [eq_of_readNat?_showNat hmajor, eq_of_readNat?_showNat hminor, eq_of_readNat?_showNat hpatch]
  rfl

end Version

/-! ## Bounds -/

namespace Shorthand

/-- A caret before the numbers of a version. -/
def caret (v : Version) : List Char := '^' :: v.dotted

/-- A tilde before the numbers of a version. -/
def tilde (v : Version) : List Char := '~' :: v.dotted

/-- A version as a lower bound, and another one as an upper bound that is itself left out. -/
def window (lower upper : Version) : List Char :=
  both ('>' :: '=' :: lower.dotted) ('<' :: upper.dotted)

theorem eq_of_successor?_showNat {n : Nat} (h : successor? (showNat n) = some t) :
    t = showNat (n + 1) := by
  obtain ⟨k, hk, hshow⟩ := Option.bind_eq_some_iff.mp h
  rw [eq_of_readNat?_showNat hk] at hshow
  unfold showNat? at hshow
  split at hshow
  · cases hshow
  · exact (Option.some_inj.mp hshow).symm

/-- No part of three numbers is open. -/
theorem not_isOpen_written (v : Version) : ¬ isWildcard v.written.major = true ∧
    ¬ Pattern.isOpen v.written.minor = true ∧ ¬ Pattern.isOpen v.written.patch = true := by
  simp [Version.written, Pattern.isOpen, isWildcard_showNat]

theorem showNat_zero : showNat 0 = zero := rfl

theorem atLeast_written (v : Version) :
    atLeast v.written.major (part v.written.minor) (part v.written.patch) v.written.pre =
      '>' :: '=' :: v.dotted :=
  List.append_nil _

/-- A caret stands for the versions from the written one up to the next major one. -/
theorem caret?_written (hmajor : v.major ≠ 0) (h : caret? v.written = some t) :
    t = window v ⟨v.major + 1, 0, 0, []⟩ := by
  obtain ⟨hclosed, hminor, hpatch⟩ := not_isOpen_written v
  have hzero : ¬ v.written.major = zero := fun heq => hmajor (showNat_eq_zero_iff.mp heq)
  unfold caret? at h
  dsimp only at h
  rw [if_neg hclosed, if_neg hminor, if_neg hpatch, if_neg hzero] at h
  obtain ⟨next, hnext, h⟩ := Option.bind_eq_some_iff.mp h
  rw [eq_of_successor?_showNat hnext, atLeast_written, ← showNat_zero] at h
  exact (Option.some_inj.mp h).symm

/-- A tilde stands for the versions from the written one up to the next minor one. -/
theorem tilde?_written (h : tilde? v.written = some t) :
    t = window v ⟨v.major, v.minor + 1, 0, []⟩ := by
  obtain ⟨hclosed, hminor, hpatch⟩ := not_isOpen_written v
  unfold tilde? at h
  dsimp only at h
  rw [if_neg hclosed, if_neg hminor, if_neg hpatch, if_neg hpatch] at h
  obtain ⟨next, hnext, h⟩ := Option.bind_eq_some_iff.mp h
  rw [eq_of_successor?_showNat hnext, atLeast_written, ← showNat_zero] at h
  exact (Option.some_inj.mp h).symm

/-! ## Words -/

/-- A text of one word is treated as that word. -/
theorem mapWords?_of_solid (f : List Char → Option (List Char)) (hs : Solid s) :
    mapWords? f s = f s := by
  rw [mapWords?, hs.trim_eq, words_eq_singleton hs, mapM_singleton, Option.map_map]
  exact Option.map_id'

theorem solid_caret (v : Version) : Solid (caret v) := by
  simp [caret, v.solid_dotted, isBlank]

theorem solid_tilde (v : Version) : Solid (tilde v) := by
  simp [tilde, v.solid_dotted, isBlank]

theorem solid_lower (v : Version) : Solid ('>' :: '=' :: v.dotted) := by
  simp [v.solid_dotted, isBlank]

theorem solid_upper (v : Version) : Solid ('<' :: v.dotted) := by
  simp [v.solid_dotted, isBlank]

theorem trim_window (lower upper : Version) : trim (window lower upper) = window lower upper := by
  apply trim_eq_self
  · rintro c ⟨⟩
    decide
  · intro c hc
    have hlast : (window lower upper).getLast? = ('<' :: upper.dotted).getLast? := by
      rw [window, both, ← List.singleton_append (x := ' '), ← List.append_assoc,
        List.getLast?_append_of_ne_nil _ (List.cons_ne_nil _ _)]
    exact solid_upper upper c (List.mem_of_getLast? (hlast ▸ hc))

theorem words_window (lower upper : Version) :
    words (window lower upper) = ['>' :: '=' :: lower.dotted, '<' :: upper.dotted] :=
  words_append (solid_lower lower) (solid_upper upper) (List.cons_ne_nil _ _)

/-- Two bounds are treated one by one. -/
theorem mapWords?_window (f : List Char → Option (List Char)) (lower upper : Version)
    (hlower : f ('>' :: '=' :: lower.dotted) = some ('>' :: '=' :: lower.dotted))
    (hupper : f ('<' :: upper.dotted) = some ('<' :: upper.dotted)) :
    mapWords? f (window lower upper) = some (window lower upper) := by
  rw [mapWords?, trim_window, words_window, List.mapM_cons, hlower, List.mapM_cons, hupper,
    List.mapM_nil]
  simp [join, window, both]

theorem takeOperator_upper (v : Version) : takeOperator ('<' :: v.dotted) = (['<'], v.dotted) := by
  obtain ⟨c, rest, hcons, hdigit⟩ := v.dotted_eq_cons
  have hne : c ≠ '=' := ne_of_isAsciiDigit hdigit (by decide)
  rw [hcons]
  simp [takeOperator, hne]

theorem wildcard?_written (text operator : List Char) (v : Version) :
    wildcard? text operator v.written = some text := by
  obtain ⟨hclosed, hminor, hpatch⟩ := not_isOpen_written v
  rw [wildcard?, if_neg hclosed, if_pos (by simp [hminor, hpatch])]

/-- What follows carets and tildes leaves two bounds as they are. -/
theorem expand_window (lower upper : Version) :
    expandTildes? .strict (window lower upper) = some (window lower upper) ∧
      expandWildcards? .strict (window lower upper) = some (window lower upper) ∧
        substitute dropStar (trim (window lower upper)) = window lower upper := by
  refine ⟨mapWords?_window _ _ _ rfl rfl, mapWords?_window _ _ _ ?_ ?_, ?_⟩
  · have hoperator : takeOperator ('>' :: '=' :: lower.dotted) = (['>', '='], lower.dotted) := rfl
    simp only [hoperator, lower.read?_dotted, wildcard?_written]
  · simp only [takeOperator_upper, upper.read?_dotted, wildcard?_written]
  · rw [trim_window]
    apply substitute_eq_self
    intro t image rest ht hmatch
    obtain ⟨-, hstar, -⟩ := dropStar_eq_some hmatch
    have hmem := ht.subset hstar
    have hnot := fun v : Version => v.not_mem_dotted (c := '*') (by decide) (by decide)
    simp [window, both, hnot] at hmem

/-- After a caret, three numbers are spelled out in two bounds. -/
theorem expand?_caret (hmajor : v.major ≠ 0) (h : expand? .strict (caret v) = some t) :
    t = window v ⟨v.major + 1, 0, 0, []⟩ := by
  have hcarets : expandCarets? .strict (caret v) = caret? v.written := by
    rw [expandCarets?, mapWords?_of_solid _ (solid_caret v)]
    simp only [caret, v.read?_dotted]
  obtain ⟨carets, hspelled, h⟩ := Option.bind_eq_some_iff.mp h
  rw [hcarets] at hspelled
  rw [caret?_written hmajor hspelled] at h
  obtain ⟨htildes, hwildcards, hstars⟩ := expand_window v ⟨v.major + 1, 0, 0, []⟩
  simp only [htildes, hwildcards, hstars, Option.bind_eq_bind, Option.bind_some,
    Option.some.injEq] at h
  exact h.symm

/-- And so they are after a tilde. -/
theorem expand?_tilde (h : expand? .strict (tilde v) = some t) :
    t = window v ⟨v.major, v.minor + 1, 0, []⟩ := by
  have hcarets : expandCarets? .strict (tilde v) = some (tilde v) :=
    mapWords?_of_solid _ (solid_tilde v)
  -- a tilde may go with a greater-than sign, but no number begins with one
  have htildes : expandTildes? .strict (tilde v) = tilde? v.written := by
    obtain ⟨c, rest, hcons, hdigit⟩ := v.dotted_eq_cons
    have hread := v.read?_dotted
    rw [expandTildes?, mapWords?_of_solid _ (solid_tilde v)]
    rw [tilde, hcons]
    rw [hcons] at hread
    simp only
    split
    · rename_i heq
      cases heq
      exact absurd rfl (ne_of_isAsciiDigit hdigit (by decide))
    · rename_i heq
      cases heq
      simp only [hread]
    · rename_i _ hnone
      exact absurd rfl (hnone _)
  obtain ⟨carets, hsame, h⟩ := Option.bind_eq_some_iff.mp h
  rw [hcarets, Option.some_inj] at hsame
  subst hsame
  obtain ⟨tildes, hspelled, h⟩ := Option.bind_eq_some_iff.mp h
  rw [htildes] at hspelled
  rw [tilde?_written hspelled] at h
  obtain ⟨-, hwildcards, hstars⟩ := expand_window v ⟨v.major, v.minor + 1, 0, []⟩
  simp only [hwildcards, hstars, Option.bind_eq_bind, Option.bind_some, Option.some.injEq] at h
  exact h.symm

end Shorthand

/-! ## Ranges -/

namespace Comparator

theorem read?_operator {operator : List Char} {comparator : Comparator}
    (hoperator : takeOperator s = (operator, v.dotted)) (hne : s ≠ [])
    (h : read? .strict s = some comparator) :
    comparator = .bound (.ofOperator operator) v.release := by
  have hempty : s.isEmpty = false := by simpa using hne
  have hwritten : readWritten? .strict s = some (some (operator, v.written)) := by
    simp only [readWritten?, hempty, hoperator, Bool.false_eq_true, if_false,
      v.solid_dotted.trimStart_eq, v.readWritten?_dotted, Option.map_some]
  unfold read? at h
  rw [hwritten] at h
  obtain ⟨w, hw, rfl⟩ := Option.map_eq_some_iff.mp h
  rw [Version.eq_of_ofPattern?_written hw]

end Comparator

namespace Range

variable {r : Range}

theorem splitBars_eq_singleton (h : '|' ∉ s) : splitBars s = [s] := by
  fun_induction splitBars s with
  | case1 rest => exact absurd List.mem_cons_self h
  | case2 c rest _ ih => rw [ih (List.not_mem_of_not_mem_cons h), consHead]
  | case3 => rfl

/-- A range of a single piece has a single alternative, what the piece is spelled out in. -/
theorem read?_of_solid (hs : Solid s) (hdash : '-' ∉ s) (hbar : '|' ∉ s)
    (h : read? .strict s = some r) :
    ∃ expanded, Shorthand.expand? .strict s = some expanded ∧
      ∃ comparators, (words expanded).mapM (Comparator.read? .strict) = some comparators ∧
        r = [comparators] := by
  obtain ⟨alternatives, halternatives, h⟩ := Option.bind_eq_some_iff.mp h
  rw [splitBars_eq_singleton hbar, mapM_singleton, Option.map_eq_some_iff] at halternatives
  obtain ⟨comparators, halternative, rfl⟩ := halternatives
  -- an alternative without comparators would have been dropped, and the range with it
  have hr : r = [comparators] := by
    cases comparators with
    | nil => cases h
    | cons first rest => exact (Option.some_inj.mp h).symm
  obtain ⟨texts, htexts, hcomparators⟩ := Option.bind_eq_some_iff.mp halternative
  obtain ⟨pieces, hpieces, htexts⟩ := Option.bind_eq_some_iff.mp htexts
  have htidy : words (Shorthand.tidy s) = [s] := by
    rw [Shorthand.tidy_eq_self hs, words_eq_singleton hs]
  rw [hs.trim_eq, Shorthand.pieces?, Shorthand.expandHyphen?_of_dashless hdash] at hpieces
  have hsingle : pieces = [s] := (Option.some_inj.mp hpieces).symm.trans htidy
  rw [hsingle, mapM_singleton] at htexts
  obtain ⟨images, himages, htexts⟩ := Option.bind_eq_some_iff.mp htexts
  obtain ⟨expanded, hexpanded, rfl⟩ := Option.map_eq_some_iff.mp himages
  cases htexts
  exact ⟨expanded, hexpanded, comparators, hcomparators, hr⟩

/-- The comparators of two bounds. -/
theorem mapM_read?_window {lower upper : Version} {comparators : List Comparator}
    (h : (words (Shorthand.window lower upper)).mapM (Comparator.read? .strict) =
      some comparators) :
    comparators = [.bound .atLeast lower.release, .bound .less upper.release] := by
  rw [Shorthand.words_window] at h
  simp only [List.mapM_cons, List.mapM_nil, Option.bind_eq_bind, Option.bind_eq_some_iff,
    Option.pure_def, Option.some.injEq] at h
  obtain ⟨first, hfirst, others, ⟨second, hsecond, -, rfl, rfl⟩, rfl⟩ := h
  rw [Comparator.read?_operator (v := lower) rfl (List.cons_ne_nil _ _) hfirst,
    Comparator.read?_operator (Shorthand.takeOperator_upper upper) (List.cons_ne_nil _ _) hsecond]
  rfl

/-- A mark and three numbers, where they are spelled out in two bounds. -/
theorem read?_marked {mark : Char} (hsolid : Solid (mark :: v.dotted)) (hdash : '-' ≠ mark)
    (hbar : '|' ≠ mark) {lower upper : Version}
    (hspelled : ∀ expanded, Shorthand.expand? .strict (mark :: v.dotted) = some expanded →
      expanded = Shorthand.window lower upper)
    (h : read? .strict (mark :: v.dotted) = some r) :
    r = [[.bound .atLeast lower.release, .bound .less upper.release]] := by
  have hnot : ∀ c, isAsciiDigit c = false → c ≠ '.' → c ≠ mark → c ∉ mark :: v.dotted :=
    fun c hc hdot hmark => List.not_mem_cons_of_ne_of_not_mem hmark (v.not_mem_dotted hc hdot)
  obtain ⟨expanded, hexpanded, comparators, hcomparators, rfl⟩ := read?_of_solid hsolid
    (hnot '-' (by decide) (by decide) hdash) (hnot '|' (by decide) (by decide) hbar) h
  rw [hspelled expanded hexpanded] at hcomparators
  rw [mapM_read?_window hcomparators]

/-- The two bounds of a caret range. -/
theorem read?_caret (hmajor : v.major ≠ 0) (h : read? .strict (Shorthand.caret v) = some r) :
    r = [[.bound .atLeast v.release, .bound .less ⟨v.major + 1, 0, 0, []⟩]] :=
  read?_marked (Shorthand.solid_caret v) (by decide) (by decide)
    (fun _ hexpanded => Shorthand.expand?_caret hmajor hexpanded) h

/-- The two bounds of a tilde range. -/
theorem read?_tilde (h : read? .strict (Shorthand.tilde v) = some r) :
    r = [[.bound .atLeast v.release, .bound .less ⟨v.major, v.minor + 1, 0, []⟩]] :=
  read?_marked (Shorthand.solid_tilde v) (by decide) (by decide)
    (fun _ hexpanded => Shorthand.expand?_tilde hexpanded) h

end Range

end PluginOrder
