import PluginOrder.Json.Printer
import PluginOrder.Proofs.CommandLine.Printing
import PluginOrder.Proofs.Text.Ordinary

/-!
# Documents are ordinary text

Whatever value is written, as JSON or as YAML, the document is ordinary text
(`Json.ordinary_render`, `Yaml.ordinary_render`).  Any other character of a text in the value is
written by an escape, and an escape is a backslash with letters and digits.  So nothing in a
document is taken for a control sequence when it is printed, and it is printed as it is
(`printed_of_ordinary`).
-/

namespace PluginOrder

theorem isOrdinary_of_bounds {c : Char} (hleast : 0x20 ≤ c.toNat) (hmost : c.toNat ≤ 0x7e) :
    Yaml.isOrdinary c = true := by
  simp [Yaml.isOrdinary, hleast, hmost]

/-! ## JSON -/

namespace Json

theorem ordinary_escapeChar (c : Char) : Ordinary (escapeChar c) := by
  unfold escapeChar
  split
  · rename_i hc
    rcases hc with rfl | rfl <;> decide
  iterate 5
    split
    · decide
  split
  · rename_i hbounds
    exact .cons (isOrdinary_of_bounds hbounds.1 (by omega)) .nil
  · exact .flatMap fun unit _ =>
      .cons (by decide) (.cons (by decide) (ordinary_hex 4 unit))

theorem ordinary_quoted {s : List Char} (h : Ordinary s) :
    Ordinary (String.ofList ('\x22' :: s ++ ['\x22'])).toList := by
  rw [String.toList_ofList]
  exact .append (.cons (by decide) h) (by decide)

theorem ordinary_string (s : String) : Ordinary (string s).toList :=
  ordinary_quoted (.flatMap fun c _ => ordinary_escapeChar c)

theorem ordinary_stringOfPoints (points : List Text.CodePoint) :
    Ordinary (stringOfPoints points).toList := by
  refine ordinary_quoted (.flatMap fun point _ => ?_)
  cases point with
  | char c => exact ordinary_escapeChar c
  | half code => exact .cons (by decide) (.cons (by decide) (ordinary_hex 4 code))

theorem ordinary_number (x : Float) : Ordinary (number x).toList :=
  FloatLayout.ordinary_render (by decide) (by decide) x

section Layout

variable {layout : Layout}

theorem ordinary_lineBreak (layout : Layout) (level : Nat) :
    Ordinary (layout.lineBreak level).toList := by
  unfold Layout.lineBreak
  cases layout.indent with
  | none => exact .nil
  | some width =>
      rw [String.toList_ofList]
      exact .cons (by decide) (.replicate _ (by decide))

theorem ordinary_enclose (hseparator : Ordinary layout.separator.toList) (level : Nat)
    {opening closing : String} (hopening : Ordinary opening.toList)
    (hclosing : Ordinary closing.toList) {items : List String}
    (hitems : ∀ item ∈ items, Ordinary item.toList) :
    Ordinary (layout.enclose level opening closing items).toList := by
  have hbreak := ordinary_lineBreak layout
  unfold Layout.enclose
  split
  · rw [String.toList_append]
    exact hopening.append hclosing
  · have hjoined : Ordinary (layout.separator ++ layout.lineBreak (level + 1)).toList := by
      rw [String.toList_append]
      exact hseparator.append (hbreak _)
    simp only [String.toList_append]
    exact (((hopening.append (hbreak _)).append (ordinary_joinTexts hjoined hitems)).append
      (hbreak _)).append hclosing

mutual

theorem ordinary_value (hseparator : Ordinary layout.separator.toList) (level : Nat) :
    ∀ v : Value, Ordinary (layout.value level v).toList
  | .null | .shared _ => by
      simp only [Layout.value]
      decide
  | .bool b => by
      cases b <;> (simp only [Layout.value]; decide)
  | .int n => by
      simp only [Layout.value]
      exact ordinary_toString_int n
  | .float x => by
      simp only [Layout.value]
      exact ordinary_number x
  | .text _ | .octets _ | .date _ | .moment _ => by
      simp only [Layout.value]
      exact ordinary_string _
  | .illFormed points => by
      simp only [Layout.value]
      exact ordinary_stringOfPoints points
  | .list items | .set items => by
      simp only [Layout.value]
      exact ordinary_enclose hseparator level (by decide) (by decide)
        (ordinary_items hseparator (level + 1) items)
  | .pair key value => by
      simp only [Layout.value]
      refine ordinary_enclose hseparator level (by decide) (by decide) ?_
      simp only [List.forall_mem_cons]
      exact ⟨ordinary_value hseparator (level + 1) key, ordinary_value hseparator (level + 1) value,
        fun _ h => absurd h List.not_mem_nil⟩
  | .map entries => by
      simp only [Layout.value]
      exact ordinary_enclose hseparator level (by decide) (by decide)
        (ordinary_members hseparator (level + 1) entries)

theorem ordinary_items (hseparator : Ordinary layout.separator.toList) (level : Nat) :
    ∀ items : List Value, ∀ item ∈ layout.items level items, Ordinary item.toList
  | [] => by simp [Layout.items]
  | item :: rest => by
      simp only [Layout.items, List.forall_mem_cons]
      exact ⟨ordinary_value hseparator level item, ordinary_items hseparator level rest⟩

theorem ordinary_members (hseparator : Ordinary layout.separator.toList) (level : Nat) :
    ∀ entries : List (Value × Value), ∀ member ∈ layout.members level entries,
      Ordinary member.toList
  | [] => by simp [Layout.members]
  | (key, value) :: rest => by
      simp only [Layout.members, List.forall_mem_cons, String.toList_append]
      exact ⟨((ordinary_string _).append (by decide)).append
        (ordinary_value hseparator level value),
        ordinary_members hseparator level rest⟩

end

end Layout

/-- A document in JSON is ordinary text. -/
theorem ordinary_render (v : Value) : Ordinary (render indented v).toList :=
  ordinary_value (by decide) 0 v

end Json

/-! ## YAML -/

namespace Yaml

variable {s : List Char} (indent : Nat)

theorem ordinary_newLine (column : Nat) : Ordinary (newLine column) :=
  .cons (by decide) (.replicate column (by decide))

theorem ordinary_plainFrom (h : Ordinary s) (column : Nat) (before : Option Char) :
    Ordinary (plainFrom indent column before s) := by
  induction s generalizing column before with
  | nil => exact .nil
  | cons c rest ih =>
      have hrest := h.of_subset (List.subset_cons_self c rest)
      unfold plainFrom
      split
      · exact (ordinary_newLine indent).append (ih hrest _ _)
      · exact .cons (h c List.mem_cons_self) (ih hrest _ _)

theorem ordinary_singleFrom (h : Ordinary s) (column : Nat) (before : Option Char) :
    Ordinary (singleFrom indent column before s) := by
  induction s generalizing column before with
  | nil => exact .cons (by decide) .nil
  | cons c rest ih =>
      have hc := h c List.mem_cons_self
      have hrest := ih (h.of_subset (List.subset_cons_self c rest))
      have hbreaks : Ordinary (if before = some '\n' then ['\n'] else ['\n', '\n']) := by
        split <;> decide
      simp only [singleFrom]
      split
      · exact (ordinary_newLine indent).append (hrest _ _)
      · split
        · split
          · exact hbreaks.append (hrest _ _)
          · exact (hbreaks.append (.replicate indent (by decide))).append (hrest _ _)
        · split
          · exact .cons hc (.cons hc (hrest _ _))
          · exact .cons hc (hrest _ _)

theorem isOrdinary_escapeLetter {c letter : Char} (h : escapeLetter? c = some letter) :
    isOrdinary letter = true := by
  unfold escapeLetter? at h
  split at h <;> cases h <;> rfl

theorem ordinary_escape {c : Char} {escape : List Char} (h : escape? c = some escape) :
    Ordinary escape := by
  have hbackslash : isOrdinary '\\' = true := by decide
  simp only [escape?] at h
  cases hletter : escapeLetter? c with
  | some letter =>
      rw [hletter] at h
      cases h
      exact .cons hbackslash (.cons (isOrdinary_escapeLetter hletter) .nil)
  | none =>
      rw [hletter] at h
      simp only at h
      split at h
      · cases h
      · split at h
        · cases h
          exact .cons hbackslash (.cons (by decide) (ordinary_upperHex _ _))
        · split at h
          · cases h
            exact .cons hbackslash (.cons (by decide) (ordinary_upperHex _ _))
          · cases h
            exact .cons hbackslash (.cons (by decide) (ordinary_upperHex _ _))

/-- A character without an escape stands for itself. -/
theorem isOrdinary_of_escape_none {c : Char} (h : escape? c = none) : isOrdinary c = true := by
  simp only [escape?] at h
  cases hletter : escapeLetter? c with
  | some letter =>
      rw [hletter] at h
      cases h
  | none =>
      rw [hletter] at h
      simp only at h
      split at h
      · rename_i hbounds
        exact isOrdinary_of_bounds hbounds.1 hbounds.2
      · split at h
        · cases h
        · split at h <;> cases h

theorem ordinary_doubleFold (spaced : Bool) : Ordinary (doubleFold indent spaced) := by
  refine .cons (by decide) ((ordinary_newLine indent).append ?_)
  cases spaced <;> decide

theorem ordinary_doubleFrom (s : List Char) (column : Nat) (isFirst afterEscape : Bool) :
    Ordinary (doubleFrom indent column isFirst afterEscape s) := by
  induction s generalizing column isFirst afterEscape with
  | nil => exact .cons (by decide) .nil
  | cons c rest ih =>
      simp only [doubleFrom]
      cases hescape : escape? c with
      | some escape =>
          have hchars := ordinary_escape hescape
          dsimp only
          split
          · exact (hchars.append (ordinary_doubleFold indent _)).append (ih _ _ _)
          · exact hchars.append (ih _ _ _)
      | none =>
          -- what needs no escape stands for itself
          have hc := isOrdinary_of_escape_none hescape
          dsimp only
          split
          · exact (ordinary_doubleFold indent _).append (.cons hc (ih _ _ _))
          · exact .cons hc (ih _ _ _)

theorem ordinary_textAt (column : Nat) (s : String) : Ordinary (textAt indent column s) := by
  simp only [textAt]
  split
  · rename_i hplain
    simp only [allowsPlain, Bool.and_eq_true, List.all_eq_true] at hplain
    exact ordinary_plainFrom indent hplain.1.1.1.1.1 _ _
  · split
    · rename_i hsingle
      simp only [allowsSingle, Bool.and_eq_true, List.all_eq_true] at hsingle
      exact .cons (by decide) (ordinary_singleFrom indent hsingle.1.1 _ _)
    · exact .cons (by decide) (ordinary_doubleFrom indent _ _ _ _)

theorem ordinary_decimalText (x : Float) : Ordinary (decimalText x).toList := by
  have htext : Ordinary (FloatLayout.render
      { documentFloat with infinity := ".inf", notANumber := ".nan" } x).toList :=
    FloatLayout.ordinary_render (by decide) (by decide) x
  simp only [decimalText]
  split
  · rename_i digits exponent hpieces
    -- the text is cut at the letter of its exponent, and both pieces come from it
    have hpiece {piece : String} (hmem : piece ∈ [digits, exponent]) : Ordinary piece.toList :=
      htext.of_subset (splitOn_subset (hpieces ▸ hmem))
    split
    · exact htext
    · simp only [String.toList_append]
      exact ((hpiece List.mem_cons_self).append (by decide)).append
        (hpiece (List.mem_cons_of_mem _ List.mem_cons_self))
  · exact htext

theorem ordinary_scalarAt (column : Nat) : ∀ v : Value, Ordinary (scalarAt indent column v)
  | .null => by
      simp only [scalarAt]
      decide
  | .bool b => by
      cases b <;> (simp only [scalarAt]; decide)
  | .int n => by
      simp only [scalarAt]
      exact ordinary_toString_int n
  | .float x => by
      simp only [scalarAt]
      exact ordinary_decimalText x
  | .text _ | .illFormed _ | .octets _ | .date _ | .moment _ | .list _ | .pair _ _ | .set _ | .map _
  | .shared _ => by
      simp only [scalarAt]
      exact ordinary_textAt indent column _

mutual

theorem ordinary_afterKey (indent column : Nat) : ∀ v : Value, Ordinary (afterKey indent column v)
  | .list [] | .map [] => by
      simp only [afterKey]
      decide
  | .list (item :: rest) => by
      simp only [afterKey]
      exact (ordinary_newLine indent).append (ordinary_items indent (item :: rest))
  | .map (entry :: rest) => by
      simp only [afterKey]
      exact (ordinary_newLine _).append (ordinary_entries (indent + 2) (entry :: rest))
  | .null | .bool _ | .int _ | .float _ | .text _ | .illFormed _ | .octets _ | .date _ | .moment _
  | .pair _ _ | .set _ | .shared _ => by
      simp only [afterKey]
      exact .cons (by decide) (ordinary_scalarAt _ _ _)

theorem ordinary_afterDash (indent : Nat) : ∀ v : Value, Ordinary (afterDash indent v)
  | .list [] | .map [] => by
      simp only [afterDash]
      decide
  | .list (item :: rest) => by
      simp only [afterDash]
      exact .cons (by decide) (ordinary_items (indent + 2) (item :: rest))
  | .map (entry :: rest) => by
      simp only [afterDash]
      exact .cons (by decide) (ordinary_entries (indent + 2) (entry :: rest))
  | .null | .bool _ | .int _ | .float _ | .text _ | .illFormed _ | .octets _ | .date _ | .moment _
  | .pair _ _ | .set _ | .shared _ => by
      simp only [afterDash]
      exact .cons (by decide) (ordinary_scalarAt _ _ _)

theorem ordinary_items (indent : Nat) : ∀ items' : List Value, Ordinary (items indent items')
  | [] => .nil
  | item :: rest => by
      simp only [items]
      refine ((Ordinary.cons (by decide) (ordinary_afterDash indent item)).append ?_).append
        (ordinary_items indent rest)
      split
      · exact .nil
      · exact ordinary_newLine indent

theorem ordinary_entries (indent : Nat) :
    ∀ entries' : List (Value × Value), Ordinary (entries indent entries')
  | [] => .nil
  | (key, value) :: rest => by
      simp only [entries]
      refine (((ordinary_scalarAt 0 0 key).append
        (.cons (by decide) (ordinary_afterKey indent _ value))).append ?_).append
        (ordinary_entries indent rest)
      split
      · exact .nil
      · exact ordinary_newLine indent

end

/-- A document in YAML is ordinary text. -/
theorem ordinary_render (v : Value) : Ordinary (render v).toList := by
  unfold render
  split
  · rw [String.toList_ofList]
    exact ordinary_items 0 _
  · rw [String.toList_ofList]
    exact ordinary_entries 0 _
  · decide
  · decide
  · rw [String.toList_ofList]
    exact ordinary_scalarAt 0 0 _

end Yaml

/-! ## Printing a document -/

/-- An ordinary text is printed as it is. -/
theorem printed_of_ordinary {s : String} (h : Ordinary s.toList) :
    CommandLine.printed s = s ++ "\n" :=
  CommandLine.printed_of_not_mem fun hmem => absurd (h _ hmem) (by decide)

end PluginOrder
