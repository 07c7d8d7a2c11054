import Diagnosis.Severity

/-!
# Styled text

Text with the style it is shown in. Bells, backspaces and the breaks that move
more than a line cannot be shown and are left out. Each severity has a style of
its own.
-/

namespace Diagnosis.Display

/-- Text with a style; the empty style is the plain one. -/
structure Styled where
  text : String
  style : String
  deriving DecidableEq, Repr, Inhabited

/-- Whether a character is left out of styled text. -/
def isDropped (c : Char) : Bool := c == '\x07' || c == '\x08' || c == '\x0b' || c == '\x0c' || c == '\x0d'

/-- Some text in a style. -/
def Styled.of (text style : String) : Styled := ⟨String.ofList (text.toList.filter (! isDropped ·)), style⟩

/-- The colours that text is shown in. -/
def cyan : String := "#45d3ee"
def mutedBlue : String := "#9FBFC5"
def teal : String := "#94bfc1"
def orange : String := "#fecd91"
def red : String := "#a80000"

/-- A style in bold letters. -/
def bold (colour : String) : String := "bold " ++ colour

/-- The style of a severity. -/
def severityStyle : Severity → String
  | .error => bold red
  | .warning => bold orange
  | .information => bold cyan
  | .hint => teal

/-- The word for a severity in its style. -/
def severityText (s : Severity) : Styled := .of s.label (severityStyle s)

end Diagnosis.Display
