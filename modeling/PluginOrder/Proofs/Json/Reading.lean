import PluginOrder.Json.Reader
import PluginOrder.Proofs.Failure
import PluginOrder.Proofs.Value.Parts
import Mathlib.Data.List.Induction
import Mathlib.Data.List.TakeWhile

/-!
# What is read from JSON

The values that the reader gives are those of JSON: their members have names, and a whole number
among them has few enough digits to be written again, so that each of them has a text
(`Value.IsJson.display?_ne_none`).  A text that is refused for its long numbers has a run of so many
digits.  Both are said of the whole reader by `Json.meets_read`.

They follow from one predicate on the result of a reader: what is left is an end of the text, and a
run of digits that was refused stands in the text (`Json.Reads`).  It is kept when one reader goes
on where another one ended (`Json.Reads.bind`), so there is one lemma for each reader, and one
induction on the fuel for those that call each other.
-/

namespace PluginOrder

namespace Value

/-- The names of members. -/
def IsName : Value → Prop
  | .text _ | .illFormed _ => True
  | _ => False

/-- The values of JSON. -/
inductive IsJson : Value → Prop
  | null : IsJson .null
  | bool {b : Bool} : IsJson (.bool b)
  | int {n : Int} (hsize : n.natAbs < 10 ^ Text.maxDigits) : IsJson (.int n)
  | float {x : Float} : IsJson (.float x)
  | text {s : String} : IsJson (.text s)
  | illFormed {points : List Text.CodePoint} : IsJson (.illFormed points)
  | list {items : List Value} (hitems : ∀ item ∈ items, IsJson item) : IsJson (.list items)
  | map {entries : List (Value × Value)} (hnames : ∀ entry ∈ entries, entry.1.IsName)
      (hvalues : ∀ entry ∈ entries, IsJson entry.2) : IsJson (.map entries)

theorem IsName.isJson {v : Value} (h : v.IsName) : v.IsJson := by
  cases v with
  | text s => exact .text
  | illFormed points => exact .illFormed
  | _ => exact h.elim

theorem IsJson.part {u v : Value} (h : v.IsJson) (hpart : Part u v) : u.IsJson := by
  induction hpart with
  | self => exact h
  | item hitem _ ih =>
      cases h with
      | list hitems => exact ih (hitems _ hitem)
  | member | pairKey | pairValue => cases h
  | entryKey hentry _ ih =>
      cases h with
      | map hnames hvalues => exact ih (hnames _ hentry).isJson
  | entryValue hentry _ ih =>
      cases h with
      | map hnames hvalues => exact ih (hvalues _ hentry)

theorem IsJson.not_holdsOversized {v : Value} (h : v.IsJson) (w : Value) (hpart : Part w v) :
    ¬(Document.ofValue v).HoldsOversized w := by
  rintro ⟨n, hsize, hn | ⟨_, hmem, -⟩⟩
  · cases h.part (hn.trans hpart) with
    | int hlt => omega
  · simp [Document.ofValue] at hmem

theorem IsJson.display?_ne_none {v : Value} (h : v.IsJson) {w : Value} (hpart : Part w v) :
    (Document.ofValue v).display? w ≠ none :=
  fun hnone => h.not_holdsOversized w hpart (Document.holdsOversized_of_display? hnone)

theorem isName_ofPoints (points : List Text.CodePoint) : (ofPoints points).IsName := by
  unfold ofPoints
  cases Text.CodePoint.chars? points <;> trivial

end Value

namespace Json

open Text

variable {α β : Type} {s t : List Char}

/-- A number is refused for its length only if there is a run of so many digits in the text. -/
def Fault.IsFoundIn (s : List Char) : Fault → Prop
  | .malformed _ _ => True
  | .oversizedNumber digits =>
      maxDigits < digits ∧ ∃ run, run <:+: s ∧ run.length = digits ∧ ∀ c ∈ run, isAsciiDigit c

/-- A reader of the text `s` ends: what it read has a property and what is left is an end of the
text, or its fault is found there. -/
abbrev Reads (p : α → Prop) (s : List Char) (x : Except Fault (α × List Char)) : Prop :=
  Meets (fun found => p found.1 ∧ found.2 <:+ s) (Fault.IsFoundIn s) x

theorem Fault.IsFoundIn.of_suffix {fault : Fault} (h : fault.IsFoundIn s) (hst : s <:+ t) :
    fault.IsFoundIn t := by
  cases fault with
  | malformed kind rest => trivial
  | oversizedNumber digits =>
      obtain ⟨hmany, run, hrun, hlength, hdigits⟩ := h
      exact ⟨hmany, run, hrun.trans hst.isInfix, hlength, hdigits⟩

theorem Reads.of_suffix {p : α → Prop} {x : Except Fault (α × List Char)} (h : Reads p s x)
    (hst : s <:+ t) : Reads p t x :=
  h.weaken (fun _ hfound => ⟨hfound.1, hfound.2.trans hst⟩) fun _ hfault => hfault.of_suffix hst

theorem Reads.bind {p : α → Prop} {q : β → Prop} {x : Except Fault (α × List Char)}
    {f : α × List Char → Except Fault (β × List Char)} (h : Reads p s x)
    (hnext : ∀ a rest, p a → rest <:+ s → Reads q s (f (a, rest))) : Reads q s (x >>= f) :=
  Meets.bind h fun found hfound => hnext found.1 found.2 hfound.1 hfound.2

theorem skipBlanks_suffix (s : List Char) : skipBlanks s <:+ s := List.dropWhile_suffix _

/-! ## Strings and numbers -/

theorem reads_readString (start : List Char) (waiting : Option Nat) (s : List Char) :
    Reads (fun _ => True) s (readString start waiting s) := by
  fun_induction readString start waiting s with
  | case1 | case3 | case5 | case7 | case8 | case9 => trivial
  | case2 => exact ⟨trivial, List.suffix_cons _ _⟩
  -- behind an escaped unit, an escaped character and a plain one the string is read on
  | case4 _ a b c d digits head tail =>
      rename_i ih
      have hsuffix : head :: tail <:+ '\\' :: 'u' :: a :: b :: c :: d :: head :: tail :=
        List.suffix_append ['\\', 'u', a, b, c, d] (head :: tail)
      exact (ih.of_suffix hsuffix).bind fun _ _ _ hrest => ⟨trivial, hrest⟩
  | case6 _ c rest =>
      rename_i ih
      have hsuffix : rest <:+ '\\' :: c :: rest := List.suffix_append ['\\', c] rest
      exact (ih.of_suffix hsuffix).bind fun _ _ _ hrest => ⟨trivial, hrest⟩
  | case10 _ c rest =>
      rename_i ih
      exact (ih.of_suffix (List.suffix_cons c rest)).bind fun _ _ _ hrest => ⟨trivial, hrest⟩

theorem takeWhole?_eq_some {s whole rest : List Char} (h : takeWhole? s = some (whole, rest)) :
    whole ++ rest = s ∧ ∀ c ∈ whole, isAsciiDigit c := by
  unfold takeWhole? at h
  split at h
  · cases h
    exact ⟨rfl, List.forall_mem_singleton.mpr (by decide)⟩
  · rename_i c tail _
    split at h
    · rename_i hc
      cases h
      refine ⟨congrArg (c :: ·) List.takeWhile_append_dropWhile, ?_⟩
      exact List.forall_mem_cons.mpr ⟨hc, fun _ hd => List.mem_takeWhile_imp hd⟩
    · cases h
  · cases h

theorem takeFraction?_suffix {s digits rest : List Char}
    (h : takeFraction? s = some (digits, rest)) : rest <:+ s := by
  unfold takeFraction? at h
  split at h
  · split at h
    · cases h
      exact (List.dropWhile_suffix _).trans (List.suffix_append ['.', _] _)
    · cases h
  · cases h

theorem takeExponent?_suffix {s rest : List Char} {exponent : Int}
    (h : takeExponent? s = some (exponent, rest)) : rest <:+ s := by
  cases s with
  | nil => cases h
  | cons e tail =>
      simp only [takeExponent?] at h
      split at h
      · -- a sign may stand between the letter and the digits
        split at h
        case h_1 =>
          split at h <;> cases h
          exact (List.dropWhile_suffix _).trans (List.suffix_append [e, '-'] _)
        case h_2 =>
          split at h <;> cases h
          exact (List.dropWhile_suffix _).trans (List.suffix_append [e, '+'] _)
        case h_3 =>
          split at h <;> cases h
          exact (List.dropWhile_suffix _).trans (List.suffix_cons e _)
      · cases h

/-- A run of digits writes a number below the first one with more of them. -/
theorem numberOfDigits_lt {base : Nat} {digits : List Nat} (h : ∀ d ∈ digits, d < base) :
    numberOfDigits base digits < base ^ digits.length := by
  induction digits using List.reverseRecOn with
  | nil => simp [numberOfDigits]
  | append_singleton front last ih =>
      have hfront : numberOfDigits base front + 1 ≤ base ^ front.length :=
        ih fun d hd => h d (List.mem_append_left _ hd)
      have hlast : last < base := h last (by simp)
      calc numberOfDigits base (front ++ [last])
          = numberOfDigits base front * base + last := by simp [numberOfDigits]
        _ < (numberOfDigits base front + 1) * base := by rw [Nat.add_mul]; omega
        _ ≤ base ^ front.length * base := Nat.mul_le_mul_right base hfront
        _ = base ^ (front ++ [last]).length := by rw [List.length_append, Nat.pow_add]; simp

theorem numberOfAscii_lt {digits : List Char} (h : ∀ c ∈ digits, isAsciiDigit c) :
    numberOfAscii digits < 10 ^ digits.length := by
  have hvalues : ∀ d ∈ digits.map fun c => c.toNat - 48, d < 10 := by
    intro d hd
    obtain ⟨c, hc, rfl⟩ := List.mem_map.mp hd
    have hmost : c ≤ '9' := by
      have := h c hc
      simp only [isAsciiDigit, Bool.and_eq_true, decide_eq_true_eq] at this
      exact this.2
    have : c.toNat ≤ 57 := hmost
    omega
  have hlt := numberOfDigits_lt hvalues
  rwa [List.length_map] at hlt

theorem reads_readNumber (start : List Char) (negative : Bool) (s : List Char) :
    Reads Value.IsJson s (readNumber start negative s) := by
  unfold readNumber
  cases hwhole : takeWhole? s with
  | none => trivial
  | some found =>
      obtain ⟨whole, rest⟩ := found
      obtain ⟨rfl, hdigits⟩ := takeWhole?_eq_some hwhole
      have hwhole : rest <:+ whole ++ rest := List.suffix_append whole rest
      have hfraction : ((takeFraction? rest).getD ([], rest)).2 <:+ rest := by
        cases h : takeFraction? rest with
        | none => exact List.suffix_refl rest
        | some taken => exact takeFraction?_suffix h
      have hexponent (t : List Char) : ((takeExponent? t).getD (0, t)).2 <:+ t := by
        cases h : takeExponent? t with
        | none => exact List.suffix_refl t
        | some taken => exact takeExponent?_suffix h
      have hrest := ((hexponent _).trans hfraction).trans hwhole
      simp only
      split
      · split
        · -- too many digits are the fault, and they are a stretch of the text
          rename_i hmany
          exact ⟨hmany, whole, (List.prefix_append whole rest).isInfix, rfl, hdigits⟩
        · -- few enough digits write a number below `10 ^ maxDigits`, with either sign
          rename_i hfew
          refine ⟨.int ?_, hrest⟩
          have hlt := numberOfAscii_lt hdigits
          have hle : 10 ^ whole.length ≤ 10 ^ maxDigits :=
            Nat.pow_le_pow_right (by decide) (Nat.not_lt.mp hfew)
          split <;> simp <;> omega
      · exact ⟨.float, hrest⟩

theorem dropWord?_suffix {word s rest : List Char} (h : dropWord? word s = some rest) :
    rest <:+ s := by
  fun_induction dropWord? word s with
  | case1 => 
      cases h
      exact List.suffix_refl _
  | case2 d word s ih => exact (ih h).trans (List.suffix_cons _ _)
  | _ => cases h

theorem reads_readScalar (s : List Char) : Reads Value.IsJson s (readScalar s) := by
  unfold readScalar
  split
  · rename_i found hfound
    obtain ⟨⟨word, value⟩, hmem, hword⟩ := List.exists_of_findSome?_eq_some hfound
    obtain ⟨rest, hrest, rfl⟩ := Option.map_eq_some_iff.mp hword
    refine ⟨?_, dropWord?_suffix hrest⟩
    have hvalue : ∀ entry ∈ wordValues, entry.2.IsJson := by
      simp only [wordValues, List.forall_mem_cons]
      exact ⟨.null, .bool, .bool, .float, .float, .float, by simp⟩
    exact hvalue _ hmem
  · split
    · exact (reads_readNumber _ _ _).of_suffix (List.suffix_cons _ _)
    · exact reads_readNumber _ _ _

/-! ## Values -/

theorem isJson_cons {entry : Value × Value} {entries : List (Value × Value)} :
    (Value.map (entry :: entries)).IsJson ↔
      entry.1.IsName ∧ entry.2.IsJson ∧ (Value.map entries).IsJson := by
  constructor
  · intro h
    cases h with
    | map hnames hvalues =>
        obtain ⟨hname, hnames⟩ := List.forall_mem_cons.mp hnames
        obtain ⟨hvalue, hvalues⟩ := List.forall_mem_cons.mp hvalues
        exact ⟨hname, hvalue, .map hnames hvalues⟩
  · rintro ⟨hname, hvalue, h⟩
    cases h with
    | map hnames hvalues =>
        exact .map (List.forall_mem_cons.mpr ⟨hname, hnames⟩)
          (List.forall_mem_cons.mpr ⟨hvalue, hvalues⟩)

theorem isJson_putMember {name value : Value} (hname : name.IsName) (hvalue : value.IsJson)
    {before : List (Value × Value)} (h : (Value.map before).IsJson) :
    (Value.map (putMember name value before)).IsJson := by
  induction before with
  | nil => exact isJson_cons.mpr ⟨hname, hvalue, h⟩
  | cons entry rest ih =>
      obtain ⟨hkey, hold, hrest⟩ := isJson_cons.mp h
      simp only [putMember]
      split
      · exact isJson_cons.mpr ⟨hkey, hvalue, hrest⟩
      · exact isJson_cons.mpr ⟨hkey, hold, ih hrest⟩

/-- What follows a mark after blanks. -/
theorem suffix_of_skipBlanks {s rest : List Char} {c : Char} (h : skipBlanks s = c :: rest) :
    rest <:+ s :=
  (List.suffix_cons c rest).trans (h ▸ skipBlanks_suffix s)

mutual

theorem reads_readValue (fuel : Nat) (s : List Char) : Reads Value.IsJson s (readValue fuel s) := by
  cases fuel with
  | zero => trivial
  | succ fuel =>
      simp only [readValue]
      split
      · rename_i tail
        have hstring := (reads_readString ('\x22' :: tail) none tail).of_suffix
          (List.suffix_cons '\x22' tail)
        exact hstring.bind fun points rest _ hrest => ⟨(Value.isName_ofPoints points).isJson, hrest⟩
      · rename_i tail
        have htail : tail <:+ '\x7b' :: tail := List.suffix_cons _ tail
        split
        · rename_i hskip
          exact ⟨.map (by simp) (by simp), (suffix_of_skipBlanks hskip).trans htail⟩
        · have hempty : (Value.map []).IsJson := .map (by simp) (by simp)
          have hmembers := (reads_readMembers fuel hempty (skipBlanks tail)).of_suffix
            ((skipBlanks_suffix tail).trans htail)
          exact hmembers.bind fun members rest hmembers hrest => ⟨hmembers, hrest⟩
      · rename_i tail
        have htail : tail <:+ '[' :: tail := List.suffix_cons _ tail
        split
        · rename_i hskip
          exact ⟨.list (by simp), (suffix_of_skipBlanks hskip).trans htail⟩
        · have hitems := (reads_readItems fuel (skipBlanks tail)).of_suffix
            ((skipBlanks_suffix tail).trans htail)
          exact hitems.bind fun items rest hitems hrest => ⟨hitems, hrest⟩
      · exact reads_readScalar s

theorem reads_readItems (fuel : Nat) (s : List Char) :
    Reads (fun items => (Value.list items).IsJson) s (readItems fuel s) := by
  cases fuel with
  | zero => trivial
  | succ fuel =>
      simp only [readItems]
      refine (reads_readValue fuel s).bind fun item rest hitem hrest => ?_
      dsimp only
      split
      · rename_i hskip
        exact ⟨.list (by simpa using hitem), (suffix_of_skipBlanks hskip).trans hrest⟩
      · rename_i tail hskip
        have htail : skipBlanks tail <:+ s :=
          ((skipBlanks_suffix tail).trans (suffix_of_skipBlanks hskip)).trans hrest
        refine ((reads_readItems fuel (skipBlanks tail)).of_suffix htail).bind ?_
        intro items rest hitems hrest
        cases hitems with
        | list hitems => exact ⟨.list (List.forall_mem_cons.mpr ⟨hitem, hitems⟩), hrest⟩
      · trivial

theorem reads_readMembers (fuel : Nat) {before : List (Value × Value)}
    (hbefore : (Value.map before).IsJson) (s : List Char) :
    Reads (fun members => (Value.map members).IsJson) s (readMembers fuel before s) := by
  cases fuel with
  | zero => trivial
  | succ fuel =>
      simp only [readMembers]
      split
      · rename_i tail
        have hstring := (reads_readString ('\x22' :: tail) none tail).of_suffix
          (List.suffix_cons '\x22' tail)
        refine hstring.bind fun name rest _ hrest => ?_
        dsimp only
        split
        · rename_i after hskip
          have hafter : skipBlanks after <:+ '\x22' :: tail :=
            ((skipBlanks_suffix after).trans (suffix_of_skipBlanks hskip)).trans hrest
          refine ((reads_readValue fuel (skipBlanks after)).of_suffix hafter).bind ?_
          intro value rest hvalue hrest
          -- a repeated name takes the place of its member, so the names stay distinct
          have hmembers := isJson_putMember (Value.isName_ofPoints name) hvalue hbefore
          dsimp only
          split
          · rename_i hskip
            exact ⟨hmembers, (suffix_of_skipBlanks hskip).trans hrest⟩
          · rename_i others hskip
            have hothers : skipBlanks others <:+ '\x22' :: tail :=
              ((skipBlanks_suffix others).trans (suffix_of_skipBlanks hskip)).trans hrest
            exact (reads_readMembers fuel hmembers (skipBlanks others)).of_suffix hothers
          · trivial
        · trivial
      · trivial

end

/-- **What is read from JSON.**  The value is one of JSON, or a fault is found in the text. -/
theorem meets_read (s : List Char) : Meets Value.IsJson (Fault.IsFoundIn s) (read s) := by
  unfold read
  split
  · trivial
  · have hvalue := (reads_readValue (2 * s.length + 2) (skipBlanks s)).of_suffix
      (skipBlanks_suffix s)
    refine Meets.bind hvalue fun found hfound => ?_
    dsimp only
    split
    · exact hfound.1
    · trivial

end Json

end PluginOrder
