import PluginOrder.Proofs.Failure
import PluginOrder.Yaml.Token.Lexer

/-!
# Where the tokens of a text end

A text of YAML may stop to make sense while it is read as tokens.  Then the last token tells of the
fault, which is one of the text itself (`Fault.IsLexical`): besides a malformed text, an escape that
names no code point and a version with too many digits (`isLexical_of_mem_ofText`).

There is a lemma for each reader of a part of the text, which has no tokens to look at, and one for
each step of the lexer, which adds none that tells of a fault (`Lexer.IsWhole`).
-/

namespace PluginOrder.Yaml

open Text (CodePoint)

variable {α β : Type}

/-- A fault that the text itself has, before it is known what stands in it. -/
def Fault.IsLexical : Fault → Prop
  | .malformed => True
  | .notCodePoint code => 0x110000 ≤ code
  | .oversizedNumeral digits => Text.maxDigits < digits
  | _ => False

/-- A reading fails only with a fault of the text itself. -/
abbrev Lexical (x : Except Fault α) : Prop := Meets (fun _ => True) Fault.IsLexical x

theorem Lexical.bind {x : Except Fault α} {f : α → Except Fault β} (hx : Lexical x)
    (hf : ∀ a, Lexical (f a)) : Lexical (x >>= f) := Meets.bind hx fun a _ => hf a

/-! ## Scalars -/

theorem lexical_quotedBreaks (fuel : Nat) (c : Cursor) : Lexical (quotedBreaks fuel c) := by
  induction fuel generalizing c with
  | zero => trivial
  | succ fuel ih =>
      simp only [quotedBreaks]
      split
      · trivial
      · split
        · trivial
        · exact (ih _).bind fun _ => trivial

theorem lexical_quotedBlanks (c : Cursor) : Lexical (quotedBlanks c) := by
  simp only [quotedBlanks]
  split
  · exact (lexical_quotedBreaks _ _).bind fun _ => trivial
  · trivial

theorem lexical_pointOfCode (code : Nat) : Lexical (pointOfCode code) := by
  unfold pointOfCode
  split
  · trivial
  · rename_i hcode
    exact Nat.le_of_not_lt hcode

theorem lexical_readEscape (c : Cursor) : Lexical (readEscape c) := by
  unfold readEscape
  split
  · trivial
  · split
    · trivial
    · split
      · split
        · exact (lexical_pointOfCode _).bind fun _ => trivial
        · trivial
      · trivial
    · split
      · exact (lexical_quotedBreaks _ _).bind fun _ => trivial
      · trivial

theorem lexical_readQuotedFrom (quote : Char) (fuel : Nat) (c : Cursor) :
    Lexical (readQuotedFrom quote fuel c) := by
  induction fuel generalizing c with
  | zero => trivial
  | succ fuel ih =>
      simp only [readQuotedFrom]
      split
      · trivial
      · split
        · exact (lexical_quotedBlanks c).bind fun _ => (ih _).bind fun _ => trivial
        · split
          · split
            · exact (ih _).bind fun _ => trivial
            · trivial
          · split
            · exact (lexical_readEscape _).bind fun _ => (ih _).bind fun _ => trivial
            · exact (ih _).bind fun _ => trivial

theorem lexical_readLineEnd (c : Cursor) : Lexical (readLineEnd c) := by
  simp only [readLineEnd]
  split
  · trivial
  · split <;> trivial

theorem lexical_readBlockHeader (c : Cursor) : Lexical (readBlockHeader c) := by
  simp only [readBlockHeader]
  split
  · trivial
  · exact (lexical_readLineEnd _).bind fun _ => trivial

theorem lexical_readBlock (folded : Bool) (indent : Nat) (c : Cursor) :
    Lexical (readBlock folded indent c) :=
  (lexical_readBlockHeader _).bind fun _ => trivial

/-! ## Anchors, tags and directives -/

theorem lexical_readAnchor (c : Cursor) : Lexical (readAnchor c) := by
  simp only [readAnchor]
  split <;> trivial

theorem lexical_readOctets (fuel : Nat) (c : Cursor) : Lexical (readOctets fuel c) := by
  induction fuel generalizing c with
  | zero => trivial
  | succ fuel ih =>
      simp only [readOctets]
      split
      · split
        · exact (ih _).bind fun _ => trivial
        · trivial
      · trivial

theorem lexical_readTagCharsFrom (fuel : Nat) (c : Cursor) :
    Lexical (readTagCharsFrom fuel c) := by
  induction fuel generalizing c with
  | zero => trivial
  | succ fuel ih =>
      simp only [readTagCharsFrom]
      split
      · refine (lexical_readOctets _ _).bind fun _ => ?_
        split
        · trivial
        · exact (ih _).bind fun _ => trivial
      · split
        · trivial
        · exact (ih _).bind fun _ => trivial

theorem lexical_readTagChars (c : Cursor) : Lexical (readTagChars c) := by
  unfold readTagChars
  split
  · exact (lexical_readTagCharsFrom _ _).bind fun _ => trivial
  · trivial

theorem lexical_readHandle (c : Cursor) : Lexical (readHandle c) := by
  simp only [readHandle]
  split
  · split
    · trivial
    · split <;> trivial
  · trivial

theorem lexical_readTagText (c : Cursor) : Lexical (readTagText c) := by
  simp only [readTagText]
  split
  · refine (lexical_readTagChars _).bind fun _ => ?_
    split <;> trivial
  · split
    · trivial
    · split
      · exact (lexical_readHandle c).bind fun _ => (lexical_readTagChars _).bind fun _ => trivial
      · exact (lexical_readTagChars _).bind fun _ => trivial

theorem lexical_readTag (c : Cursor) : Lexical (readTag c) := by
  refine (lexical_readTagText c).bind fun _ => ?_
  dsimp only
  split <;> trivial

theorem lexical_readVersionPart (c : Cursor) : Lexical (readVersionPart c) := by
  simp only [readVersionPart]
  split
  · trivial
  · split
    · assumption
    · trivial

theorem lexical_readDirectiveBody (name : String) (c : Cursor) :
    Lexical (readDirectiveBody name c) := by
  simp only [readDirectiveBody]
  split
  · refine (lexical_readVersionPart _).bind fun _ => ?_
    split
    · refine (lexical_readVersionPart _).bind fun _ => ?_
      split <;> trivial
    · trivial
  · split
    · refine (lexical_readHandle _).bind fun _ => ?_
      split
      · refine (lexical_readTagChars _).bind fun _ => ?_
        split <;> trivial
      · trivial
    · trivial

theorem lexical_readDirective (c : Cursor) : Lexical (readDirective c) := by
  simp only [readDirective]
  split
  · trivial
  · exact (lexical_readDirectiveBody _ _).bind fun _ =>
      (lexical_readLineEnd _).bind fun _ => trivial

/-! ## Tokens -/

/-- A token that the text was read as. -/
def Token.IsWhole : Token → Prop
  | .broken _ => False
  | _ => True

namespace Lexer

/-- No token tells of a fault. -/
def AllWhole (tokens : Array Token) : Prop := ∀ token ∈ tokens, token.IsWhole

/-- So far the text was read without a fault. -/
def IsWhole (l : Lexer) : Prop := AllWhole l.tokens

/-- A step of the lexer reads on, or fails with a fault of the text itself. -/
abbrev GoesOn (x : Except Fault Lexer) : Prop := Meets IsWhole Fault.IsLexical x

variable {l : Lexer} {tokens tokens' : Array Token} {token : Token}

theorem AllWhole.push (h : AllWhole tokens) (htoken : token.IsWhole) :
    AllWhole (tokens.push token) := by
  intro other hother
  rcases Array.mem_push.mp hother with hother | hother
  · exact h other hother
  · exact hother ▸ htoken

theorem AllWhole.append (h : AllWhole tokens) (h' : AllWhole tokens') :
    AllWhole (tokens ++ tokens') := by
  intro token htoken
  rcases Array.mem_append.mp htoken with htoken | htoken
  · exact h token htoken
  · exact h' token htoken

theorem AllWhole.extract (h : AllWhole tokens) (start stop : Nat) :
    AllWhole (tokens.extract start stop) := by
  intro token htoken
  obtain ⟨k, hk, rfl⟩ := Array.mem_extract_iff_getElem.mp htoken
  exact h _ (Array.getElem_mem _)

theorem AllWhole.closeBlocksAt (h : AllWhole tokens) (column : Nat) (blocks : List Nat) :
    AllWhole (closeBlocksAt column blocks tokens).2 := by
  induction blocks generalizing tokens with
  | nil => exact h
  | cons block rest ih =>
      simp only [Lexer.closeBlocksAt]
      split
      · exact ih (h.push trivial)
      · exact h

theorem goesOn_pushAt {cursor : Cursor} (h : l.IsWhole) (htoken : token.IsWhole) :
    GoesOn (.ok (l.pushAt token cursor)) := AllWhole.push h htoken

theorem IsWhole.unwind (h : l.IsWhole) (column : Nat) : (l.unwind column).IsWhole := by
  unfold Lexer.unwind
  split
  · exact h
  · exact AllWhole.closeBlocksAt h column l.blocks

theorem IsWhole.unwindAll (h : l.IsWhole) : l.unwindAll.IsWhole := by
  unfold Lexer.unwindAll
  split
  · exact h
  · refine AllWhole.append h fun token htoken => ?_
    rw [(Array.mem_replicate.mp htoken).2]
    trivial

/-- Outside brackets a block may be opened in front of a token. -/
theorem IsWhole.openBlock (h : l.IsWhole) (token : Token) (htoken : token.IsWhole) :
    (if l.depth = 0 then l.openBlock token else l).IsWhole := by
  unfold Lexer.openBlock
  split
  · split
    · exact AllWhole.push h htoken
    · exact h
  · exact h

theorem IsWhole.confirmKey (h : l.IsWhole) (k : Candidate) : (l.confirmKey k).IsWhole := by
  have hadded (opens : Bool) :
      AllWhole (if opens then #[.blockMapStart, .key] else #[.key]) := by
    cases opens <;> simp [AllWhole, Token.IsWhole]
  exact AllWhole.append (AllWhole.append (AllWhole.extract h _ _) (hadded _))
    (AllWhole.extract h _ _)

theorem IsWhole.dropCandidate (h : l.IsWhole) : GoesOn l.dropCandidate := by
  unfold Lexer.dropCandidate
  split
  · trivial
  · exact h

theorem IsWhole.dropStale (h : l.IsWhole) : GoesOn l.dropStale := by
  unfold Lexer.dropStale
  split
  · trivial
  · exact h

theorem IsWhole.addCandidate (h : l.IsWhole) : GoesOn l.addCandidate := by
  unfold Lexer.addCandidate
  split
  · exact h.dropCandidate.bind fun _ h' => h'
  · exact h

theorem IsWhole.readEnd (h : l.IsWhole) : GoesOn l.readEnd := by
  refine h.unwindAll.dropCandidate.bind fun l' h' => ?_
  exact AllWhole.push h' trivial

theorem IsWhole.readDirectiveToken (h : l.IsWhole) : GoesOn l.readDirectiveToken := by
  refine h.unwindAll.dropCandidate.bind fun l' h' => ?_
  refine Meets.bind (lexical_readDirective l'.cursor) fun _ _ => ?_
  exact goesOn_pushAt h' trivial

theorem IsWhole.readMarker (h : l.IsWhole) (htoken : token.IsWhole) :
    GoesOn (l.readMarker token) := by
  refine h.unwindAll.dropCandidate.bind fun l' h' => ?_
  exact goesOn_pushAt h' htoken

theorem IsWhole.readOpening (h : l.IsWhole) (htoken : token.IsWhole) :
    GoesOn (l.readOpening token) := by
  refine h.addCandidate.bind fun l' h' => ?_
  exact goesOn_pushAt h' htoken

theorem IsWhole.readClosing (h : l.IsWhole) (htoken : token.IsWhole) :
    GoesOn (l.readClosing token) := by
  refine h.dropCandidate.bind fun l' h' => ?_
  exact goesOn_pushAt h' htoken

theorem IsWhole.readEntry (h : l.IsWhole) : GoesOn l.readEntry := by
  refine h.dropCandidate.bind fun l' h' => ?_
  exact goesOn_pushAt h' trivial

theorem IsWhole.readBlockEntry (h : l.IsWhole) : GoesOn l.readBlockEntry := by
  unfold Lexer.readBlockEntry
  split
  · trivial
  · have hopened := h.openBlock .blockListStart trivial
    refine hopened.dropCandidate.bind fun l' h' => ?_
    exact goesOn_pushAt h' trivial

theorem IsWhole.readKey (h : l.IsWhole) : GoesOn l.readKey := by
  unfold Lexer.readKey
  split
  · trivial
  · have hopened := h.openBlock .blockMapStart trivial
    refine hopened.dropCandidate.bind fun l' h' => ?_
    exact goesOn_pushAt h' trivial

theorem IsWhole.readValue (h : l.IsWhole) : GoesOn l.readValue := by
  unfold Lexer.readValue
  split
  · exact goesOn_pushAt (h.confirmKey _) trivial
  · split
    · trivial
    · have hopened := h.openBlock .blockMapStart trivial
      exact goesOn_pushAt hopened trivial

theorem IsWhole.readNode (h : l.IsWhole) (token : α → Token) (htoken : ∀ a, (token a).IsWhole)
    {read : Cursor → Except Fault (Reading α)} (hread : ∀ c, Lexical (read c)) :
    GoesOn (l.readNode token read) := by
  refine h.addCandidate.bind fun l' h' => ?_
  refine Meets.bind (hread l'.cursor) fun found _ => ?_
  exact goesOn_pushAt h' (htoken found.1)

theorem IsWhole.readBlockScalar (h : l.IsWhole) (folded : Bool) :
    GoesOn (l.readBlockScalar folded) := by
  refine h.dropCandidate.bind fun l' h' => ?_
  refine Meets.bind (lexical_readBlock folded l'.innerColumn l'.cursor) fun _ _ => ?_
  exact goesOn_pushAt h' trivial

theorem IsWhole.readPlainScalar (h : l.IsWhole) : GoesOn l.readPlainScalar := by
  refine h.addCandidate.bind fun l' h' => ?_
  exact goesOn_pushAt h' trivial

theorem IsWhole.skipToToken (h : l.IsWhole) (fuel : Nat) : (skipToToken fuel l).IsWhole := by
  induction fuel generalizing l with
  | zero => exact h
  | succ fuel ih =>
      simp only [Lexer.skipToToken]
      split
      · exact h
      · exact ih h

theorem IsWhole.skipMark (h : l.IsWhole) : l.skipMark.IsWhole := by
  unfold Lexer.skipMark
  split <;> exact h

theorem IsWhole.readToken (h : l.IsWhole) (c : Char) : GoesOn (l.readToken c) := by
  unfold Lexer.readToken
  refine .ite (fun _ => h.readDirectiveToken) fun _ => ?_
  refine .ite (fun _ => h.readMarker trivial) fun _ => ?_
  refine .ite (fun _ => h.readMarker trivial) fun _ => ?_
  refine .ite (fun _ => h.readOpening trivial) fun _ => ?_
  refine .ite (fun _ => h.readOpening trivial) fun _ => ?_
  refine .ite (fun _ => h.readClosing trivial) fun _ => ?_
  refine .ite (fun _ => h.readClosing trivial) fun _ => ?_
  refine .ite (fun _ => h.readEntry) fun _ => ?_
  refine .ite (fun _ => h.readBlockEntry) fun _ => ?_
  refine .ite (fun _ => h.readKey) fun _ => ?_
  refine .ite (fun _ => h.readValue) fun _ => ?_
  refine .ite (fun _ => h.readNode .reference (fun _ => trivial) lexical_readAnchor)
    fun _ => ?_
  refine .ite (fun _ => h.readNode .anchor (fun _ => trivial) lexical_readAnchor)
    fun _ => ?_
  refine .ite (fun _ => h.readNode .tag (fun _ => trivial) lexical_readTag) fun _ => ?_
  refine .ite (fun _ => h.readBlockScalar false) fun _ => ?_
  refine .ite (fun _ => h.readBlockScalar true) fun _ => ?_
  refine .ite (fun _ => h.readNode (fun text => .scalar text false) (fun _ => trivial)
    fun c' => lexical_readQuotedFrom c c'.rest.length c'.next) fun _ => ?_
  exact .ite (fun _ => h.readPlainScalar) fun _ => trivial

theorem IsWhole.turn (h : l.IsWhole) :
    Meets (fun found => found.1.IsWhole) Fault.IsLexical l.turn := by
  refine (h.skipMark.skipToToken _).dropStale.bind fun l' h' => ?_
  dsimp only
  split
  · exact (h'.unwind _).readEnd.bind fun _ h'' => h''
  · exact ((h'.unwind _).readToken _).bind fun _ h'' => h''

/-- The tokens tell of a fault of the text itself only. -/
theorem isLexical_of_mem_run {fuel : Nat} (h : l.IsWhole) {fault : Fault}
    (hfault : .broken fault ∈ run fuel l) : fault.IsLexical := by
  -- a token that tells of a fault can only be the last one, which the failing turn adds
  induction fuel generalizing l with
  | zero =>
      rcases Array.mem_push.mp hfault with hmem | heq
      · exact (h _ hmem).elim
      · cases heq
        trivial
  | succ fuel ih =>
      have hturn := h.turn
      simp only [run] at hfault
      split at hfault
      · rename_i found herror
        rcases Array.mem_push.mp hfault with hmem | heq
        · exact (AllWhole.extract h _ _ _ hmem).elim
        · cases heq
          exact hturn.fault herror
      · rename_i l' hl'
        exact (hturn.result hl' _ hfault).elim
      · rename_i l' hl'
        exact ih (hturn.result hl') hfault

end Lexer

/-- A text cannot be read any further only because it is malformed, or because of an escape that
names no code point, or of a version with too many digits. -/
theorem isLexical_of_mem_ofText {text : List Char} {fault : Fault}
    (h : .broken fault ∈ Token.ofText text) : fault.IsLexical := by
  refine Lexer.isLexical_of_mem_run (l := .start text) ?_ (Array.mem_toList_iff.mp h)
  intro token htoken
  simp [Lexer.start] at htoken

end PluginOrder.Yaml
