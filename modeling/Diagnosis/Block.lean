import Diagnosis.Pattern.Reader

/-!
# Blocks of output

A compiler's output is cut where the delimiter pattern matches, so that each
block begins with the text that opened it. The delimiter is put into a
lookahead, which takes no text, so every place where it matches is found.
-/

namespace Diagnosis

/-- The text of the pattern that matches, empty, where a delimiter does. -/
def lookaheadOf (delimiter : List Char) : List Char := '(' :: '?' :: '=' :: delimiter ++ [')']

/-- The pattern that matches, empty, where a delimiter does. -/
def delimiterPattern (delimiter : String) : Except Pattern.Error Pattern :=
  Pattern.ofChars (lookaheadOf delimiter.toList)

/-- The positions where matches begin. -/
def matchStarts (p : Pattern) (text : Array Char) : List Nat := (p.findAll text).map (·.start)

/-- The pieces of a text from a position on, cut at those of the given positions that come after
the last cut; no piece is empty. -/
def piecesFrom (text : Array Char) (start : Nat) : List Nat → List (List Char)
  | [] => if start < text.size then [(text.extract start text.size).toList] else []
  | cut :: rest =>
    if start < cut then (text.extract start cut).toList :: piecesFrom text cut rest
    else piecesFrom text start rest

/-- The blocks of a text. -/
def blocks (p : Pattern) (text : String) : List String :=
  let cs := text.toList.toArray
  (piecesFrom cs 0 (matchStarts p cs)).map String.ofList

end Diagnosis
