/-!
# Base 64

Octets written by characters of six bits each.  Characters that stand for no bits are passed over;
a text ends at the padding that its last group needs, or has no group that is cut short.
-/

namespace PluginOrder.Text

/-- The six bits of a character. -/
def base64Value? (c : Char) : Option Nat :=
  if 'A' ≤ c ∧ c ≤ 'Z' then some (c.toNat - 65)
  else if 'a' ≤ c ∧ c ≤ 'z' then some (c.toNat - 71)
  else if '0' ≤ c ∧ c ≤ '9' then some (c.toNat + 4)
  else if c = '+' then some 62
  else if c = '/' then some 63
  else none

/-- Reads a group on.  `seen` is how many characters of the group were read, `bits` what they leave
for the next octet, and `pads` how much padding was read since. -/
def readBase64From (seen bits pads : Nat) : List Char → Option (List UInt8)
  | [] => if seen = 0 then some [] else none
  | c :: rest =>
    if c = '=' then
      if seen ≥ 2 then
        if seen + pads + 1 ≥ 4 then some [] else readBase64From seen bits (pads + 1) rest
      else readBase64From seen bits pads rest
    else
      match base64Value? c with
      | none => readBase64From seen bits pads rest
      | some value =>
        match seen with
        | 0 => readBase64From 1 value 0 rest
        | 1 =>
          (readBase64From 2 (value % 16) 0 rest).map (UInt8.ofNat (bits * 4 + value / 16) :: ·)
        | 2 =>
          (readBase64From 3 (value % 4) 0 rest).map (UInt8.ofNat (bits * 16 + value / 4) :: ·)
        | _ => (readBase64From 0 0 0 rest).map (UInt8.ofNat (bits * 64 + value) :: ·)

/-- The octets of a text in base 64. -/
def readBase64 (s : List Char) : Option (List UInt8) := readBase64From 0 0 0 s

end PluginOrder.Text
