import PluginOrder.Text.CodePoint
import PluginOrder.Text.Printable

/-!
# Quoted text

A quoted text stands between single quotes, or between double quotes if it holds a single quote
and no double one.  The quote in use and the backslash are written after a backslash, tab and the
two line breaks by their letters, and every other code point that is no printable character by its
number in two, four or eight hexadecimal digits.
-/

namespace PluginOrder.Text

/-- A number in hexadecimal, in small letters and at least the given number of digits. -/
def hex (width n : Nat) : List Char :=
  let digits := Nat.toDigits 16 n
  List.replicate (width - digits.length) '0' ++ digits

/-- A code point in the shortest of the three escapes that fits it. -/
def escapeCode (n : Nat) : List Char :=
  if n < 0x100 then '\\' :: 'x' :: hex 2 n
  else if n < 0x10000 then '\\' :: 'u' :: hex 4 n
  else '\\' :: 'U' :: hex 8 n

/-- The single quote. -/
def singleQuote : Char := '\x27'

/-- The double quote. -/
def doubleQuote : Char := '\x22'

/-- One character inside quotes. -/
def quoteChar (quote c : Char) : List Char :=
  if c = quote ∨ c = '\\' then ['\\', c]
  else if c = '\t' then ['\\', 't']
  else if c = '\n' then ['\\', 'n']
  else if c = '\r' then ['\\', 'r']
  else if isPrintable c then [c]
  else escapeCode c.toNat

/-- The quote that a text is written in. -/
def quoteFor (s : List Char) : Char :=
  if s.contains singleQuote && !s.contains doubleQuote then doubleQuote else singleQuote

/-- The text in quotes. -/
def quoteChars (s : List Char) : List Char :=
  let quote := quoteFor s
  quote :: s.flatMap (quoteChar quote) ++ [quote]

/-- The text in quotes. -/
def quote (s : String) : String := String.ofList (quoteChars s.toList)

/-- One code point inside quotes. -/
def quotePoint (quote : Char) : CodePoint → List Char
  | .char c => quoteChar quote c
  | .half code => escapeCode code

/-- The text in quotes. -/
def quotePoints (s : List CodePoint) : String :=
  let quote := quoteFor (s.filterMap CodePoint.char?)
  String.ofList (quote :: s.flatMap (quotePoint quote) ++ [quote])

end PluginOrder.Text
