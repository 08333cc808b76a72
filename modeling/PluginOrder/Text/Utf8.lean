import PluginOrder.Text.Quoted

/-!
# Reading UTF-8

The decoder takes one octet at a time.  Between characters it stands at the start; inside a
character it knows how many octets it has seen, how many are missing, and the range that the next
one must lie in.  The range rules out surrogates, numbers above U+10FFFF, and characters written
in more octets than they need, so a fault is found at the first octet that no text can have there.
-/

namespace PluginOrder.Text

/-- What is wrong with an octet sequence. -/
inductive Utf8Reason where
  | invalidStart
  | invalidContinuation
  | unexpectedEnd
  deriving DecidableEq, Repr

/-- A fault in an octet sequence. -/
structure Utf8Fault where
  /-- Where the broken character begins. -/
  position : Nat
  /-- Its first octet. -/
  octet : UInt8
  /-- How many of its octets are valid, or one if none is. -/
  length : Nat
  reason : Utf8Reason
  deriving DecidableEq, Repr

/-- The inside of a character. -/
structure PartialChar where
  /-- The first octet. -/
  lead : UInt8
  /-- How many octets were seen. -/
  seen : Nat
  /-- The number that they write. -/
  code : Nat
  /-- How many octets are missing. -/
  missing : Nat
  /-- The least next octet. -/
  low : Nat
  /-- The greatest next octet. -/
  high : Nat

/-- The inside of a character of several octets after the first one. -/
def PartialChar.start? (octet : UInt8) : Option PartialChar :=
  let b := octet.toNat
  if 0xc2 ≤ b ∧ b ≤ 0xdf then some ⟨octet, 1, b - 0xc0, 1, 0x80, 0xbf⟩
  else if b = 0xe0 then some ⟨octet, 1, 0, 2, 0xa0, 0xbf⟩
  else if b = 0xed then some ⟨octet, 1, 0xd, 2, 0x80, 0x9f⟩
  else if 0xe1 ≤ b ∧ b ≤ 0xef then some ⟨octet, 1, b - 0xe0, 2, 0x80, 0xbf⟩
  else if b = 0xf0 then some ⟨octet, 1, 0, 3, 0x90, 0xbf⟩
  else if 0xf1 ≤ b ∧ b ≤ 0xf3 then some ⟨octet, 1, b - 0xf0, 3, 0x80, 0xbf⟩
  else if b = 0xf4 then some ⟨octet, 1, 4, 3, 0x80, 0x8f⟩
  else none

/-- The inside of a character after one more octet. -/
def PartialChar.extend (p : PartialChar) (octet : UInt8) : PartialChar :=
  { p with
    seen := p.seen + 1, code := p.code * 0x40 + (octet.toNat - 0x80), missing := p.missing - 1
    low := 0x80, high := 0xbf }

/-- The fault of a character that begins before `position` and is not finished there. -/
def PartialChar.fault (p : PartialChar) (position : Nat) (reason : Utf8Reason) : Utf8Fault :=
  ⟨position - p.seen, p.lead, p.seen, reason⟩

/-- Reads octets from a position on, after the first octets of a character or between two. -/
def readUtf8From (position : Nat) : Option PartialChar → List UInt8 →
    Except Utf8Fault (List Char)
  | none, [] => .ok []
  | some p, [] => .error (p.fault position .unexpectedEnd)
  | none, b :: rest =>
    if b.toNat < 0x80 then
      (readUtf8From (position + 1) none rest).map (Char.ofNat b.toNat :: ·)
    else
      match PartialChar.start? b with
      | some p => readUtf8From (position + 1) (some p) rest
      | none => .error ⟨position, b, 1, .invalidStart⟩
  | some p, b :: rest =>
    if p.low ≤ b.toNat ∧ b.toNat ≤ p.high then
      let p := p.extend b
      if p.missing = 0 then
        (readUtf8From (position + 1) none rest).map (Char.ofNat p.code :: ·)
      else readUtf8From (position + 1) (some p) rest
    else .error (p.fault position .invalidContinuation)

/-- Reads octets as text. -/
def readUtf8 (octets : List UInt8) : Except Utf8Fault (List Char) := readUtf8From 0 none octets

/-- A reason in words. -/
def Utf8Reason.message : Utf8Reason → String
  | .invalidStart => "invalid start byte"
  | .invalidContinuation => "invalid continuation byte"
  | .unexpectedEnd => "unexpected end of data"

/-- A fault in words. -/
def Utf8Fault.message (f : Utf8Fault) : String :=
  let place :=
    if f.length = 1 then
      "byte 0x" ++ String.ofList (hex 2 f.octet.toNat) ++ " in position " ++ toString f.position
    else
      "bytes in position " ++ toString f.position ++ "-" ++ toString (f.position + f.length - 1)
  "'utf-8' codec can't decode " ++ place ++ ": " ++ f.reason.message

/-- The text with every line break, of whatever kind, as a single line feed. -/
def unifyLineBreaks : List Char → List Char
  | [] => []
  | '\r' :: '\n' :: rest => '\n' :: unifyLineBreaks rest
  | '\r' :: rest => '\n' :: unifyLineBreaks rest
  | c :: rest => c :: unifyLineBreaks rest

end PluginOrder.Text
