import PluginOrder.CommandLine.Message

/-!
# What is printed of a text

A text that is not printed on a terminal is printed without control sequences.  They are taken out
by turns, and each turn leaves a shorter text, so the length of the text is enough turns
(`stripEscapes_go_congr`).  A control sequence does not go across a line break; hence the lines of a
text are printed one by one, and none is lost (`printed_joinTexts`).
-/

namespace PluginOrder.CommandLine

/-! ## Turns -/

theorem length_lt_of_afterEscape? {s rest : List Char} (h : afterEscape? s = some rest) :
    rest.length < s.length := by
  unfold afterEscape? at h
  split at h
  · rename_i tail
    split at h
    · rename_i c body hbody
      split at h
      · cases h
        have hinner := (List.dropWhile_sublist (isBetween '0' '?') (l := tail)).length_le
        have houter := (List.dropWhile_sublist (isBetween ' ' '/')
          (l := tail.dropWhile (isBetween '0' '?'))).length_le
        rw [hbody, List.length_cons] at houter
        simp only [List.length_cons]
        omega
      · cases h
    · cases h
  · cases h

/-- Turns beyond the length of the text change nothing. -/
theorem stripEscapes_go_congr {n m : Nat} {s : List Char} (hn : s.length ≤ n) (hm : s.length ≤ m) :
    stripEscapes.go n s = stripEscapes.go m s := by
  induction n generalizing m s with
  | zero =>
      have hnil : s = [] := List.length_eq_zero_iff.mp (by omega)
      rw [hnil]
      cases m <;> rfl
  | succ n ih =>
      cases s with
      | nil => cases m <;> rfl
      | cons c rest =>
          rw [List.length_cons] at hn hm
          obtain ⟨m, rfl⟩ : ∃ k, m = k + 1 := ⟨m - 1, by omega⟩
          simp only [stripEscapes.go]
          cases hescape : afterEscape? (c :: rest) with
          | none => exact congrArg (c :: ·) (ih (by omega) (by omega))
          | some tail =>
              have hshorter := length_lt_of_afterEscape? hescape
              rw [List.length_cons] at hshorter
              exact ih (by omega) (by omega)

theorem stripEscapes_cons_of_none {c : Char} {rest : List Char}
    (h : afterEscape? (c :: rest) = none) : stripEscapes (c :: rest) = c :: stripEscapes rest := by
  show stripEscapes.go (rest.length + 1) (c :: rest) = c :: stripEscapes rest
  rw [stripEscapes.go, h]
  rfl

theorem stripEscapes_of_some {s tail : List Char} (h : afterEscape? s = some tail) :
    stripEscapes s = stripEscapes tail := by
  have hshorter := length_lt_of_afterEscape? h
  cases s with
  | nil => cases h
  | cons c rest =>
      rw [List.length_cons] at hshorter
      show stripEscapes.go (rest.length + 1) (c :: rest) = stripEscapes.go tail.length tail
      rw [stripEscapes.go, h]
      exact stripEscapes_go_congr (by omega) (by omega)

/-! ## Texts without control sequences -/

theorem afterEscape?_of_ne {c : Char} {rest : List Char} (h : c ≠ '\x1b') :
    afterEscape? (c :: rest) = none := by
  unfold afterEscape?
  split
  · rename_i heq
    exact absurd (List.cons.inj heq).1 h
  · rfl

/-- Without the escape character there is nothing to take out. -/
theorem stripEscapes_of_not_mem {s : List Char} (h : '\x1b' ∉ s) : stripEscapes s = s := by
  induction s with
  | nil => rfl
  | cons c rest ih =>
      rw [List.mem_cons, not_or] at h
      rw [stripEscapes_cons_of_none (afterEscape?_of_ne (Ne.symm h.1)), ih h.2]

theorem printed_of_not_mem {s : String} (h : '\x1b' ∉ s.toList) : printed s = s ++ "\n" := by
  rw [printed, stripEscapes_of_not_mem h, String.ofList_toList]

/-! ## Lines -/

theorem dropWhile_append_cons {α : Type} {p : α → Bool} {a : α} (h : p a = false) (s t : List α) :
    (s ++ a :: t).dropWhile p = s.dropWhile p ++ a :: t := by
  rw [List.dropWhile_append, List.dropWhile_cons_of_neg (Bool.eq_false_iff.mp h)]
  split
  · rename_i hempty
    rw [List.isEmpty_iff.mp hempty, List.nil_append]
  · rfl

/-- No control sequence goes across a line break. -/
theorem afterEscape?_append_newline (s t : List Char) :
    afterEscape? (s ++ '\n' :: t) = (afterEscape? s).map (· ++ '\n' :: t) := by
  match s with
  | [] => rfl
  | c :: rest =>
      by_cases hc : c = '\x1b'
      · subst hc
        match rest with
        | [] => rfl
        | d :: body =>
            by_cases hd : d = '['
            · subst hd
              -- a line break is neither a parameter nor an intermediate character
              have hparameters : isBetween '0' '?' '\n' = false := by decide
              have hintermediate : isBetween ' ' '/' '\n' = false := by decide
              simp only [List.cons_append, afterEscape?, dropWhile_append_cons hparameters,
                dropWhile_append_cons hintermediate]
              cases (body.dropWhile (isBetween '0' '?')).dropWhile (isBetween ' ' '/') with
              | nil => rfl
              | cons last tail =>
                  simp only [List.cons_append]
                  split <;> rfl
            · simp [afterEscape?, hd]
      · rw [List.cons_append, afterEscape?_of_ne hc, afterEscape?_of_ne hc]
        rfl

theorem stripEscapes_append_newline (s t : List Char) :
    stripEscapes (s ++ '\n' :: t) = stripEscapes s ++ '\n' :: stripEscapes t := by
  -- by induction on the length, since a turn may take a whole sequence away
  induction hlength : s.length using Nat.strongRecOn generalizing s with
  | ind n ih =>
      cases hescape : afterEscape? s with
      | some tail =>
          have hshorter := length_lt_of_afterEscape? hescape
          have happend : afterEscape? (s ++ '\n' :: t) = some (tail ++ '\n' :: t) := by
            rw [afterEscape?_append_newline, hescape]
            rfl
          calc stripEscapes (s ++ '\n' :: t)
              = stripEscapes (tail ++ '\n' :: t) := stripEscapes_of_some happend
            _ = stripEscapes tail ++ '\n' :: stripEscapes t := ih tail.length (by omega) tail rfl
            _ = stripEscapes s ++ '\n' :: stripEscapes t := by rw [stripEscapes_of_some hescape]
      | none =>
          cases s with
          | nil => exact stripEscapes_cons_of_none rfl
          | cons c rest =>
              have happend : afterEscape? (c :: (rest ++ '\n' :: t)) = none := by
                rw [← List.cons_append, afterEscape?_append_newline, hescape]
                rfl
              have hshorter : rest.length < n := by
                rw [← hlength]
                exact Nat.lt_succ_self _
              calc stripEscapes (c :: (rest ++ '\n' :: t))
                  = c :: stripEscapes (rest ++ '\n' :: t) := stripEscapes_cons_of_none happend
                _ = c :: (stripEscapes rest ++ '\n' :: stripEscapes t) :=
                    congrArg (c :: ·) (ih rest.length hshorter rest rfl)
                _ = stripEscapes (c :: rest) ++ '\n' :: stripEscapes t := by
                    rw [stripEscapes_cons_of_none hescape, List.cons_append]

/-- What is printed of a line. -/
def shown (line : String) : String := String.ofList (stripEscapes line.toList)

/-- A line without an escape character is printed as it is. -/
theorem shown_of_not_mem {line : String} (h : '\x1b' ∉ line.toList) : shown line = line := by
  rw [shown, stripEscapes_of_not_mem h, String.ofList_toList]

theorem shown_append_newline (line rest : String) :
    shown (line ++ "\n" ++ rest) = shown line ++ "\n" ++ shown rest := by
  have hchars : (line ++ "\n" ++ rest).toList = line.toList ++ '\n' :: rest.toList := by
    rw [String.toList_append, String.toList_append, List.append_assoc]
    rfl
  rw [shown, hchars, stripEscapes_append_newline, ← List.singleton_append, String.ofList_append,
    String.ofList_append, ← String.append_assoc]
  rfl

/-- **Lines are printed one by one.** -/
theorem printed_joinTexts (lines : List String) :
    printed (joinTexts "\n" lines) = joinTexts "\n" (lines.map shown) ++ "\n" := by
  show shown (joinTexts "\n" lines) ++ "\n" = joinTexts "\n" (lines.map shown) ++ "\n"
  have hlines : shown (joinTexts "\n" lines) = joinTexts "\n" (lines.map shown) := by
    unfold joinTexts
    induction lines with
    | nil => rfl
    | cons line rest ih =>
        cases rest with
        | nil => simp only [List.map_cons, List.map_nil, String.intercalate_singleton]
        | cons next rest =>
            rw [String.intercalate_cons_cons, shown_append_newline, ih]
            exact String.intercalate_cons_cons.symm
  rw [hlines]

end PluginOrder.CommandLine
