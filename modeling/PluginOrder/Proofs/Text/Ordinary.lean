import PluginOrder.Yaml.Printer

/-!
# Ordinary text

A text is ordinary if it holds printable ASCII characters and line breaks only.  The lemmas here say
what keeps lists of characters ordinary, and that numbers, whole or not, are written in ordinary
characters.
-/

namespace PluginOrder

/-- The characters are printable ASCII characters and line breaks. -/
def Ordinary (s : List Char) : Prop := ∀ c ∈ s, Yaml.isOrdinary c = true

instance (s : List Char) : Decidable (Ordinary s) :=
  List.decidableBAll (fun c => Yaml.isOrdinary c = true) s

/-! ## Lists of characters -/

namespace Ordinary

variable {s t : List Char} {c : Char}

theorem nil : Ordinary [] := fun _ hmem => absurd hmem List.not_mem_nil

theorem cons (hc : Yaml.isOrdinary c = true) (hs : Ordinary s) : Ordinary (c :: s) :=
  List.forall_mem_cons.mpr ⟨hc, hs⟩

theorem append (hs : Ordinary s) (ht : Ordinary t) : Ordinary (s ++ t) :=
  fun c hmem => (List.mem_append.mp hmem).elim (hs c) (ht c)

theorem of_subset (hs : Ordinary s) (h : t ⊆ s) : Ordinary t := fun c hmem => hs c (h hmem)

theorem replicate (n : Nat) (hc : Yaml.isOrdinary c = true) : Ordinary (List.replicate n c) := by
  intro d hmem
  rw [List.eq_of_mem_replicate hmem]
  exact hc

theorem flatMap {α : Type} {f : α → List Char} {l : List α} (h : ∀ a ∈ l, Ordinary (f a)) :
    Ordinary (l.flatMap f) := by
  intro c hmem
  obtain ⟨a, ha, hc⟩ := List.mem_flatMap.mp hmem
  exact h a ha c hc

theorem intercalate {sep : List Char} (hsep : Ordinary sep) {l : List (List Char)}
    (h : ∀ s ∈ l, Ordinary s) : Ordinary (sep.intercalate l) := by
  induction l with
  | nil => exact nil
  | cons s rest ih =>
      have hs := h s List.mem_cons_self
      have hrest := ih fun t ht => h t (List.mem_cons_of_mem _ ht)
      cases rest with
      | nil => simpa [List.intercalate] using hs
      | cons t rest =>
          rw [List.intercalate_cons_cons]
          exact (hs.append hsep).append hrest

end Ordinary

theorem ordinary_joinTexts {sep : String} (hsep : Ordinary sep.toList) {texts : List String}
    (h : ∀ s ∈ texts, Ordinary s.toList) : Ordinary (joinTexts sep texts).toList := by
  rw [joinTexts, String.toList_intercalate]
  refine hsep.intercalate fun s hmem => ?_
  obtain ⟨text, htext, rfl⟩ := List.mem_map.mp hmem
  exact h text htext

/-! ## Digits and numbers -/

theorem forall_mem_toDigitsCore {P : Char → Prop} (hP : ∀ n : Nat, P n.digitChar) (base fuel : Nat)
    {n : Nat} {ds : List Char} (h : ∀ c ∈ ds, P c) :
    ∀ c ∈ Nat.toDigitsCore base fuel n ds, P c := by
  induction fuel generalizing n ds with
  | zero => exact h
  | succ fuel ih =>
      have hcons : ∀ c ∈ (n % base).digitChar :: ds, P c := List.forall_mem_cons.mpr ⟨hP _, h⟩
      simp only [Nat.toDigitsCore]
      split
      · exact hcons
      · exact ih hcons

/-- What holds of all digits holds of those of a number. -/
theorem forall_mem_toDigits {P : Char → Prop} (hP : ∀ n : Nat, P n.digitChar) (base n : Nat) :
    ∀ c ∈ Nat.toDigits base n, P c :=
  forall_mem_toDigitsCore hP base (n + 1) fun _ hmem => absurd hmem List.not_mem_nil

theorem digitChar_of_le {n : Nat} (h : 16 ≤ n) : n.digitChar = '*' := by
  unfold Nat.digitChar
  repeat rw [if_neg (by omega)]

theorem isOrdinary_digitChar (n : Nat) : Yaml.isOrdinary n.digitChar = true := by
  rcases Nat.lt_or_ge n 16 with hlt | hge
  · revert n
    decide
  · rw [digitChar_of_le hge]
    rfl

theorem isOrdinary_toUpper_digitChar (n : Nat) : Yaml.isOrdinary n.digitChar.toUpper = true := by
  rcases Nat.lt_or_ge n 16 with hlt | hge
  · revert n
    decide
  · rw [digitChar_of_le hge]
    rfl

theorem ordinary_toDigits (base n : Nat) : Ordinary (Nat.toDigits base n) :=
  forall_mem_toDigits isOrdinary_digitChar base n

theorem ordinary_hex (width n : Nat) : Ordinary (Text.hex width n) :=
  (Ordinary.replicate _ (by decide)).append (ordinary_toDigits 16 n)

theorem ordinary_upperHex (width n : Nat) : Ordinary ((Text.hex width n).map Char.toUpper) := by
  intro c hmem
  obtain ⟨digit, hdigit, rfl⟩ := List.mem_map.mp hmem
  rcases List.mem_append.mp hdigit with hzero | hrest
  · rw [List.eq_of_mem_replicate hzero]
    rfl
  · exact forall_mem_toDigits (P := fun c => Yaml.isOrdinary c.toUpper = true)
      isOrdinary_toUpper_digitChar 16 n digit hrest

theorem ordinary_toString_nat (n : Nat) : Ordinary (toString n).toList := by
  simpa [toString, Nat.repr] using ordinary_toDigits 10 n

theorem ordinary_toString_int (n : Int) : Ordinary (toString n).toList := by
  cases n with
  | ofNat n => exact ordinary_toString_nat n
  | negSucc n =>
      have hsign : (toString (Int.negSucc n)).toList = '-' :: (toString (n + 1)).toList := by
        rw [show toString (Int.negSucc n) = "-" ++ toString (n + 1) from rfl, String.toList_append]
        rfl
      rw [hsign]
      exact (ordinary_toString_nat (n + 1)).cons (by decide)

theorem FloatLayout.ordinary_lead : ∀ ds : List Char, Ordinary ds →
    Ordinary (match ds with
      | d :: e :: rest => d :: '.' :: e :: rest
      | ds => ds)
  | [], h | [_], h => h
  | d :: _ :: _, h => .cons (h d List.mem_cons_self)
      (.cons (by decide) (h.of_subset (List.subset_cons_self d _)))

theorem FloatLayout.ordinary_digits (layout : FloatLayout) {ds : List Char} (h : Ordinary ds)
    (point : Int) : Ordinary (layout.digits ds point) := by
  have hzero : Yaml.isOrdinary '0' = true := by decide
  have hpoint : Yaml.isOrdinary '.' = true := by decide
  have hletter : Yaml.isOrdinary 'e' = true := by decide
  have hsign : Yaml.isOrdinary (if point - 1 < 0 then '-' else '+') = true := by
    split <;> decide
  -- in front of the point zeros may be missing, behind it a zero stands for nothing
  have hwhole := (h.of_subset (List.take_subset point.toNat ds)).append
    (.replicate (point.toNat - ds.length) hzero)
  have hfraction : Ordinary
      (if (ds.drop point.toNat).isEmpty then ['0'] else ds.drop point.toNat) := by
    split
    · decide
    · exact h.of_subset (List.drop_subset point.toNat ds)
  have hlead := FloatLayout.ordinary_lead ds h
  simp only [FloatLayout.digits]
  by_cases hpositional : layout.leastPositional ≤ point - 1 ∧ point - 1 < layout.leastScientific
  · rw [if_pos hpositional]
    by_cases hsmall : point ≤ 0
    · rw [if_pos hsmall]
      exact .cons hzero (.cons hpoint (.append (.replicate _ hzero) h))
    · rw [if_neg hsmall]
      exact hwhole.append (.cons hpoint hfraction)
  · rw [if_neg hpositional]
    exact hlead.append (.cons hletter
      (.cons hsign (.append (.replicate _ hzero) (ordinary_toDigits 10 _))))

/-- A double is written in ordinary characters if the names of the other doubles are. -/
theorem FloatLayout.ordinary_render {layout : FloatLayout}
    (hinfinity : Ordinary layout.infinity.toList) (hnan : Ordinary layout.notANumber.toList)
    (x : Float) : Ordinary (layout.render x).toList := by
  unfold FloatLayout.render
  cases Binary64.magnitude? x with
  | none =>
      dsimp only
      split
      · exact hnan
      · split
        · rw [String.toList_append]
          exact .append (by decide) hinfinity
        · exact hinfinity
  | some size =>
      dsimp only
      have hbody : Ordinary (if size.mantissa = 0 then layout.digits ['0'] 1
          else
            let shortest := Binary64.shortest size
            let ds := Nat.toDigits 10 shortest.digits
            layout.digits (ds.reverse.dropWhile (· == '0')).reverse
              (ds.length + shortest.exponent)) := by
        split
        · exact layout.ordinary_digits (by decide) 1
        · refine layout.ordinary_digits ?_ _
          -- trailing zeros are dropped, which leaves some of the digits
          refine (ordinary_toDigits 10 (Binary64.shortest size).digits).of_subset fun c hc => ?_
          exact List.mem_reverse.mp ((List.dropWhile_sublist _).subset (List.mem_reverse.mp hc))
      rw [String.toList_ofList]
      split
      · exact .cons (by decide) hbody
      · exact hbody

/-! ## Pieces of a text -/

section Pieces

open String.Pos.Raw

theorem extract_go₂_subset (s : List Char) (i e : String.Pos.Raw) : extract.go₂ s i e ⊆ s := by
  induction s generalizing i with
  | nil => exact List.Subset.refl _
  | cons c rest ih =>
      show (if i = e then [] else c :: extract.go₂ rest (i + c) e) ⊆ c :: rest
      split
      · exact List.nil_subset _
      · exact List.cons_subset_cons c (ih _)

theorem extract_go₁_subset (s : List Char) (i b e : String.Pos.Raw) : extract.go₁ s i b e ⊆ s := by
  induction s generalizing i with
  | nil => exact List.Subset.refl _
  | cons c rest ih =>
      show (if i = b then extract.go₂ (c :: rest) i e else extract.go₁ rest (i + c) b e) ⊆ c :: rest
      split
      · exact extract_go₂_subset _ _ _
      · exact List.Subset.trans (ih _) (List.subset_cons_self c rest)

theorem extract_subset (s : String) (b e : String.Pos.Raw) : (b.extract s e).toList ⊆ s.toList := by
  show String.toList (if b.byteIdx ≥ e.byteIdx then "" else
    String.ofList (extract.go₁ s.toList 0 b e)) ⊆ s.toList
  split
  · exact List.nil_subset _
  · rw [String.toList_ofList]
    exact extract_go₁_subset _ _ _ _

theorem splitOnAux_subset (s sep : String) (b i j : String.Pos.Raw) (pieces : List String)
    (h : ∀ piece ∈ pieces, piece.toList ⊆ s.toList) :
    ∀ piece ∈ s.splitOnAux sep b i j pieces, piece.toList ⊆ s.toList := by
  fun_induction String.splitOnAux with
  | case1 b i j pieces =>
      intro piece hpiece
      rcases List.mem_cons.mp (List.mem_reverse.mp hpiece) with rfl | hmem
      · exact extract_subset s _ _
      · exact h piece hmem
  | case2 b i j pieces _ _ i' j' _ ih =>
      exact ih (List.forall_mem_cons.mpr ⟨extract_subset s _ _, h⟩)
  | case3 _ _ _ _ _ _ _ _ _ ih => exact ih h
  | case4 _ _ _ _ _ _ ih => exact ih h

/-- The pieces of a text consist of its characters. -/
theorem splitOn_subset {s sep piece : String} (h : piece ∈ s.splitOn sep) :
    piece.toList ⊆ s.toList := by
  unfold String.splitOn at h
  split at h
  · rw [List.mem_singleton.mp h]
    exact List.Subset.refl _
  · exact splitOnAux_subset s sep 0 0 0 [] (fun _ hmem => absurd hmem List.not_mem_nil) piece h

end Pieces

end PluginOrder
