/-!
# The lines of a document

A document's lines end at a line feed, a carriage return, or the two together;
other separators of Unicode do not end a line here. There is always at least
one line, and one more than there are line breaks.
-/

namespace Diagnosis.Text

/-- The first line of a text and its later ones. -/
def splitLines : List Char → List Char × List (List Char)
  | [] => ([], [])
  | '\r' :: '\n' :: rest => let (l, ls) := splitLines rest; ([], l :: ls)
  | c :: rest =>
    let (l, ls) := splitLines rest
    if c = '\n' ∨ c = '\r' then ([], l :: ls) else (c :: l, ls)

/-- The lines of a text. -/
def lines (cs : List Char) : List (List Char) :=
  let (l, ls) := splitLines cs
  l :: ls

end Diagnosis.Text
