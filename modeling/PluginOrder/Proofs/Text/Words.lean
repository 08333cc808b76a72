import PluginOrder.Text.Blank
import PluginOrder.Text.Digit
import Mathlib.Data.List.Infix
import Mathlib.Data.List.TakeWhile

/-!
# Words and numerals

What trims a text, cuts it into words or joins words again writes nothing but separators: every
character of a word is one of the text (`words_subset`), and every character of a join is one of a
piece or of the separator (`mem_join`).

A text without blanks is *solid*.  It is its own only word (`words_eq_singleton`), and two solid
words with a blank between them are cut there and nowhere else (`words_append`).

A number is written in ASCII digits and is read back from them (`readNat?_showNat`).
-/

namespace PluginOrder.Text

variable {s t : List Char} {c : Char}

/-! ## Lists of results -/

section Results

variable {α β : Type} {f : α → Option β} {items : List α} {images : List β}

theorem mapM_eq_some_iff : items.mapM f = some images ↔ items.map f = images.map some := by
  induction items generalizing images with
  | nil => cases images <;> simp
  | cons a rest ih =>
      rw [List.mapM_cons, List.map_cons]
      cases hfirst : f a with
      | none => cases images <;> simp
      | some first =>
          cases images with
          | nil => simp [Option.bind_eq_some_iff]
          | cons b others => simp [Option.bind_eq_some_iff, ih, and_comm]

theorem mapM_eq_none_iff : items.mapM f = none ↔ ∃ a ∈ items, f a = none := by
  induction items with
  | nil => simp
  | cons a rest ih =>
      cases hfirst : f a with
      | none => simp [List.mapM_cons, hfirst]
      | some first =>
          have hnone : (a :: rest).mapM f = none ↔ rest.mapM f = none := by
            rw [List.mapM_cons, hfirst]
            cases rest.mapM f <;> simp
          rw [hnone, ih]
          simp [hfirst]

theorem mapM_singleton (f : α → Option β) (a : α) : [a].mapM f = (f a).map fun b => [b] := by
  rw [List.mapM_cons]
  cases f a <;> rfl

theorem exists_of_mem_mapM (h : items.mapM f = some images) {b : β} (hb : b ∈ images) :
    ∃ a ∈ items, f a = some b := by
  have himage : some b ∈ items.map f := mapM_eq_some_iff.mp h ▸ List.mem_map_of_mem hb
  exact List.mem_map.mp himage

theorem exists_mapM_eq_some (h : ∀ a ∈ items, f a ≠ none) :
    ∃ images, items.mapM f = some images := by
  refine Option.ne_none_iff_exists'.mp fun hnone => ?_
  obtain ⟨a, ha, hfirst⟩ := mapM_eq_none_iff.mp hnone
  exact h a ha hfirst

theorem mapM_eq_some_map {g : α → β} (h : ∀ a ∈ items, f a = some (g a)) :
    items.mapM f = some (items.map g) := by
  rw [mapM_eq_some_iff, List.map_map]
  exact List.map_congr_left h

end Results

/-! ## Where characters come from -/

theorem trimStart_suffix (s : List Char) : trimStart s <:+ s := List.dropWhile_suffix _

theorem trim_subset (s : List Char) : trim s ⊆ s := by
  intro c hc
  have hstart : c ∈ (trimStart s).reverse :=
    (List.dropWhile_suffix _).subset (List.mem_reverse.mp hc)
  exact (trimStart_suffix s).subset (List.mem_reverse.mp hstart)

theorem mem_consHead {α : Type} {a : α} {pieces : List (List α)} {piece : List α}
    (h : piece ∈ consHead a pieces) :
    piece ∈ pieces ∨ ∃ old, piece = a :: old ∧ old ∈ [] :: pieces := by
  cases pieces with
  | nil => exact Or.inr ⟨[], List.mem_singleton.mp h, List.mem_cons_self⟩
  | cons first rest =>
      rcases List.mem_cons.mp h with hfirst | hrest
      · exact Or.inr ⟨first, hfirst, List.mem_cons_of_mem _ List.mem_cons_self⟩
      · exact Or.inl (List.mem_cons_of_mem _ hrest)

/-- Where all pieces are made of characters of a text, those are that have one more in front. -/
theorem consHead_subset {α : Type} {a : α} {s : List α} {pieces : List (List α)}
    (h : ∀ piece ∈ pieces, piece ⊆ s) : ∀ piece ∈ consHead a pieces, piece ⊆ a :: s := by
  intro piece hpiece
  rcases mem_consHead hpiece with hold | ⟨old, rfl, hold⟩
  · exact List.subset_cons_of_subset a (h piece hold)
  · apply List.cons_subset_cons
    rcases List.mem_cons.mp hold with rfl | hmem
    · exact List.nil_subset s
    · exact h old hmem

theorem words_subset (s : List Char) : ∀ word ∈ words s, word ⊆ s := by
  fun_induction words s with
  | case1 => simp
  | case2 | case3 => simp
  | case4 c d rest _ _ ih => exact fun word hword => List.subset_cons_of_subset c (ih word hword)
  | case5 c d rest _ _ ih =>
      exact List.forall_mem_cons.mpr
        ⟨List.nil_subset _, fun word hword => List.subset_cons_of_subset c (ih word hword)⟩
  | case6 c d rest _ ih => exact consHead_subset ih

theorem mem_join {sep : List Char} {pieces : List (List Char)} (h : c ∈ join sep pieces) :
    c ∈ sep ∨ ∃ piece ∈ pieces, c ∈ piece := by
  fun_induction join sep pieces with
  | case1 => cases h
  | case2 piece => exact Or.inr ⟨piece, List.mem_singleton_self _, h⟩
  | case3 piece rest _ ih =>
      rcases List.mem_append.mp h with hfront | hrest
      · rcases List.mem_append.mp hfront with hpiece | hsep
        · exact Or.inr ⟨piece, List.mem_cons_self, hpiece⟩
        · exact Or.inl hsep
      · rcases ih hrest with hsep | ⟨other, hother, hc⟩
        · exact Or.inl hsep
        · exact Or.inr ⟨other, List.mem_cons_of_mem _ hother, hc⟩

theorem isPrefix_cut (sep : Char) (s : List Char) : (cut sep s).1 <+: s := by
  induction s with
  | nil => exact List.prefix_refl _
  | cons c rest ih =>
      unfold cut
      split
      · exact List.nil_prefix
      · exact (List.prefix_cons_inj c).mpr ih

/-! ## Solid texts -/

/-- There is no blank in the text. -/
def Solid (s : List Char) : Prop := ∀ c ∈ s, isBlank c = false

@[simp]
theorem solid_cons : Solid (c :: s) ↔ isBlank c = false ∧ Solid s := List.forall_mem_cons

@[simp]
theorem solid_append : Solid (s ++ t) ↔ Solid s ∧ Solid t := List.forall_mem_append

theorem Solid.of_suffix (h : Solid t) (hs : s <:+ t) : Solid s := fun c hc => h c (hs.subset hc)

theorem dropWhile_eq_self_of_head {p : Char → Bool} (h : ∀ c ∈ s.head?, p c = false) :
    s.dropWhile p = s := by
  cases s with
  | nil => rfl
  | cons c rest => rw [List.dropWhile_cons_of_neg (Bool.not_eq_true _ ▸ h c rfl)]

/-- A text with no blank at its ends is left alone. -/
theorem trim_eq_self (hhead : ∀ c ∈ s.head?, isBlank c = false)
    (hlast : ∀ c ∈ s.getLast?, isBlank c = false) : trim s = s := by
  rw [trim, trimStart, dropWhile_eq_self_of_head hhead, trimEnd, dropWhile_eq_self_of_head,
    List.reverse_reverse]
  rwa [List.head?_reverse]

theorem Solid.trimStart_eq (h : Solid s) : trimStart s = s :=
  dropWhile_eq_self_of_head fun c hc => h c (List.mem_of_mem_head? hc)

theorem Solid.trim_eq (h : Solid s) : trim s = s :=
  trim_eq_self (fun c hc => h c (List.mem_of_mem_head? hc)) fun c hc =>
    h c (List.mem_of_mem_getLast? hc)

/-- A solid text is its own only word. -/
theorem words_eq_singleton (h : Solid s) : words s = [s] := by
  fun_induction words s with
  | case1 => rfl
  | case2 c hc => exact absurd hc (by simp [(solid_cons.mp h).1])
  | case3 => rfl
  | case4 c d rest hc => exact absurd hc (by simp [(solid_cons.mp h).1])
  | case5 c d rest hc => exact absurd hc (by simp [(solid_cons.mp h).1])
  | case6 c d rest _ ih => rw [ih (solid_cons.mp h).2, consHead]

/-- Two solid words are cut at the blank between them. -/
theorem words_append (hs : Solid s) (ht : Solid t) (hne : t ≠ []) :
    words (s ++ ' ' :: t) = [s, t] := by
  obtain ⟨d, rest, rfl⟩ := List.exists_cons_of_ne_nil hne
  have hd : isBlank d = false := (solid_cons.mp ht).1
  induction s with
  | nil =>
      show words (' ' :: d :: rest) = _
      rw [words, if_pos (by decide), if_neg (by simp [hd]), words_eq_singleton ht]
  | cons c s ih =>
      obtain ⟨hc, hs⟩ := solid_cons.mp hs
      obtain ⟨e, tail, htail⟩ : ∃ e tail, s ++ ' ' :: d :: rest = e :: tail :=
        List.exists_cons_of_ne_nil (by simp)
      rw [List.cons_append, htail, words, if_neg (by simp [hc]), ← htail, ih hs, consHead]

/-! ## Numerals -/

theorem isAsciiDigit_of_mem_showNat {n : Nat} (h : c ∈ showNat n) : isAsciiDigit c = true := by
  have hdigit : c.isDigit = true := Nat.isDigit_of_mem_toDigits (by decide) (by decide) h
  simpa [Char.isDigit, isAsciiDigit, Char.le_def] using hdigit

theorem not_mem_showNat {n : Nat} (h : isAsciiDigit c = false) : c ∉ showNat n := fun hmem =>
  Bool.false_ne_true (h.symm.trans (isAsciiDigit_of_mem_showNat hmem))

theorem ne_of_isAsciiDigit {d : Char} (hc : isAsciiDigit c = true) (hd : isAsciiDigit d = false) :
    c ≠ d := by
  rintro rfl
  exact Bool.false_ne_true (hd.symm.trans hc)

theorem toNat_of_isAsciiDigit (h : isAsciiDigit c = true) : 48 ≤ c.toNat ∧ c.toNat ≤ 57 := by
  simp only [isAsciiDigit, Bool.and_eq_true, decide_eq_true_eq] at h
  exact h

theorem isBlank_of_isAsciiDigit (h : isAsciiDigit c = true) : isBlank c = false := by
  obtain ⟨hlow, hhigh⟩ := toNat_of_isAsciiDigit h
  simp only [isBlank, Bool.or_eq_false_iff, Bool.and_eq_false_iff, decide_eq_false_iff_not,
    beq_eq_false_iff_ne]
  omega

theorem solid_showNat (n : Nat) : Solid (showNat n) := fun _ hc =>
  isBlank_of_isAsciiDigit (isAsciiDigit_of_mem_showNat hc)

theorem showNat_ne_nil (n : Nat) : showNat n ≠ [] := Nat.toDigits_ne_nil

/-- A number begins with a zero only if it is zero. -/
theorem head?_showNat {n : Nat} (hn : 0 < n) : (showNat n).head? ≠ some '0' := by
  induction n using Nat.strong_induction_on with
  | _ n ih =>
      have hdigits : showNat n =
          if n < 10 then [n.digitChar] else showNat (n / 10) ++ [(n % 10).digitChar] :=
        Nat.toDigits_eq_if (by decide)
      rw [hdigits]
      split
      · have hchar : ∀ d < 10, 0 < d → d.digitChar ≠ '0' := by decide
        simpa using hchar n ‹_› hn
      · have htenth := ih (n / 10) (by omega) (by omega)
        rwa [List.head?_append_of_ne_nil _ (showNat_ne_nil (n / 10))]

theorem showNat_eq_zero_iff {n : Nat} : showNat n = ['0'] ↔ n = 0 := by
  constructor
  · intro h
    by_contra hn
    exact head?_showNat (Nat.pos_of_ne_zero hn) (by rw [h]; rfl)
  · rintro rfl
    rfl

/-- A number that is written is read as that number, or it has too many digits. -/
theorem readNat?_showNat (n : Nat) :
    readNat? (showNat n) = if (showNat n).length > maxDigits then none else some n := by
  have hvalues := mapM_eq_some_map (f := digitValue?) fun c hc =>
    digitValue?_of_isAsciiDigit (isAsciiDigit_of_mem_showNat (n := n) hc)
  have hempty : (showNat n).isEmpty = false := by simp [showNat_ne_nil]
  have hnumber : numberOfDigits 10 ((showNat n).map fun c => c.toNat - 48) = n := by
    rw [numberOfDigits, List.foldl_map]
    calc (showNat n).foldl (fun n c => n * 10 + (c.toNat - 48)) 0
        = Nat.ofDigitChars 10 (showNat n) 0 := by simp only [Nat.ofDigitChars, Nat.mul_comm]; rfl
      _ = n := by rw [showNat, Nat.ofDigitChars_ten_toDigits]
  rw [readNat?, hempty, Bool.false_or, hvalues, Option.map_some, hnumber]
  simp

theorem eq_of_readNat?_showNat {n k : Nat} (h : readNat? (showNat n) = some k) : k = n := by
  rw [readNat?_showNat] at h
  split at h
  · cases h
  · exact (Option.some_inj.mp h).symm

end PluginOrder.Text
