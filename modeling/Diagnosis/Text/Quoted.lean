import Diagnosis.Text.Digits
import Diagnosis.Unicode.Printable

/-!
# Quoted text

How messages quote a text: between apostrophes, or between quotation marks
when the text has apostrophes and no quotation mark; backslashes, the quote in
use and unprintable characters are escaped, the latter by the shortest of
`\xhh`, `\uhhhh` and `\Uhhhhhhhh` that holds them.
-/

namespace Diagnosis.Text

open Diagnosis.Unicode (isPrintable)

/-- The quote that goes around a text. -/
def quoteFor (cs : List Char) : Char :=
  if cs.contains '\'' && ! cs.contains '"' then '"' else '\''

/-- One character between quotes. -/
def escape (quote c : Char) : List Char :=
  if c == quote || c == '\\' then ['\\', c]
  else if c == '\t' then ['\\', 't']
  else if c == '\n' then ['\\', 'n']
  else if c == '\r' then ['\\', 'r']
  else if isPrintable c.toNat then [c]
  else if c.toNat < 0x100 then '\\' :: 'x' :: hexLast 2 c.toNat
  else if c.toNat < 0x10000 then '\\' :: 'u' :: hexLast 4 c.toNat
  else '\\' :: 'U' :: hexLast 8 c.toNat

/-- A text in quotes. -/
def quoted (cs : List Char) : List Char :=
  let quote := quoteFor cs
  quote :: cs.flatMap (escape quote) ++ [quote]

/-- A text in quotes. -/
def quotedText (s : String) : String := String.ofList (quoted s.toList)

end Diagnosis.Text
