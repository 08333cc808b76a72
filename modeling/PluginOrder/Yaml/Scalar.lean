import PluginOrder.Text.Base64
import PluginOrder.Value
import PluginOrder.Yaml.Numeral
import PluginOrder.Yaml.Plain

/-!
# Scalars and their values

The value of a text by the kind that it is marked with or that it suggests.
-/

namespace PluginOrder.Yaml

open Text

/-- The kind that a text suggests.  One that does not consist of characters suggests nothing. -/
def Tag.ofPoints (text : List CodePoint) : Tag :=
  match CodePoint.chars? text with
  | some chars => Tag.suggestedBy chars
  | none => .text

/-- The octets in a text, which must be ASCII. -/
def readOctetText (text : List CodePoint) : Except Fault Value :=
  match CodePoint.chars? text with
  | none => .error .malformed
  | some chars =>
    if chars.any fun c => c.toNat ≥ 0x80 then .error .malformed
    else
      match readBase64 chars with
      | some octets => .ok (.octets octets)
      | none => .error .malformed

/-- The spellings of flags, in small letters. -/
def flagWords : List (String × Bool) :=
  [("yes", true), ("no", false), ("true", true), ("false", false), ("on", true), ("off", false)]

/-- The flag that a text spells. -/
def readFlag (text : List CodePoint) : Except Fault Value :=
  let word := CodePoint.lower text
  match flagWords.find? fun entry => CodePoint.ofChars entry.1.toList == word with
  | some (_, flag) => .ok (.bool flag)
  | none => .error (.notFlag word)

/-- The time stamp that a text writes.  A line feed at its end is not looked at. -/
def readTimestamp (text : List CodePoint) : Except Fault Value :=
  let text := match text.reverse with
    | .char '\n' :: rest => rest.reverse
    | _ => text
  match (CodePoint.chars? text).bind Timestamp.read? with
  | none => .error .notTimestamp
  | some stamp => stamp.value.mapError .notInCalendar

/-- The value of a text that is marked with a kind of scalars. -/
def readScalar (tag : Tag) (text : List CodePoint) : Except Fault Value :=
  match tag with
  | .null => .ok .null
  | .flag => readFlag text
  | .integer => (readInteger text).map .int
  | .decimal => (readFraction text).map .float
  | .text => .ok (.ofPoints text)
  | .octets => readOctetText text
  | .timestamp => readTimestamp text
  | .list | .map | .set | .orderedMap | .pairs | .default | .merge | .other => .error .malformed

end PluginOrder.Yaml
