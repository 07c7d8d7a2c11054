/-!
# One kind of line break

Text as it is read from a file: a carriage return, alone or before a line feed,
becomes a line feed.
-/

namespace Diagnosis.Text

/-- A text whose lines all end in line feeds. -/
def unifyLineEnds : List Char → List Char
  | [] => []
  | '\r' :: '\n' :: rest => '\n' :: unifyLineEnds rest
  | c :: rest => (if c = '\r' then '\n' else c) :: unifyLineEnds rest

end Diagnosis.Text
