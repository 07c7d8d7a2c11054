import Diagnosis.Encoding.Basic
import Diagnosis.Unicode.Name

/-!
# Escapes of characters

Encodings in which a byte stands for the character of its own number, but a
backslash begins the number or the name of another character.
-/

namespace Diagnosis.Encoding.Escape

open Diagnosis.Text (hexValue? readHex?)

/-- The character of a number; half of a surrogate pair is replaced. -/
def scalar (n : Nat) : Char := if n.isValidChar then charOf n else '\uFFFD'

/-- The number that so many hexadecimal digits spell after two bytes. -/
def number (count : Nat) (digits : List Nat) (truncated above : String) : Except Fault (List Char × Nat) :=
  let front := ((digits.take count).map charOf).takeWhile fun c => (hexValue? c).isSome
  if front.length < count then .error ⟨2 + front.length, truncated⟩
  else
    let n := (readHex? front).getD 0
    if 0x110000 ≤ n then .error ⟨2 + count, above⟩ else .ok ([scalar n], 2 + count)

/-- The character that a name between braces stands for, after two bytes. -/
def byName (bytes : List Nat) : Except Fault (List Char × Nat) :=
  let malformed := "malformed \\N character escape"
  match bytes with
  | 0x7B :: rest =>
    let name := rest.takeWhile (· ≠ 0x7D)
    if name.length = rest.length then .error ⟨3 + name.length, malformed⟩
    else if name.isEmpty then .error ⟨3, malformed⟩
    else match Unicode.named? (String.ofList (name.map charOf)) with
      | some n => .ok ([scalar n], 4 + name.length)
      | none => .error ⟨4 + name.length, "unknown Unicode character name"⟩
  | _ => .error ⟨2, malformed⟩

/-- Whether a byte is an octal digit. -/
def isOctal (b : Nat) : Bool := 0x30 ≤ b && b ≤ 0x37

/-- The control character or quote that a letter stands for after a backslash; nothing for the end
of a line. -/
def letter? (b : Nat) : Option (List Char) :=
  [(0x0A, []), (0x5C, ['\\']), (0x27, ['\'']), (0x22, ['"']), (0x62, ['\x08']), (0x66, ['\x0C']), (0x74, ['\t']),
    (0x6E, ['\n']), (0x72, ['\r']), (0x76, ['\x0B']), (0x61, ['\x07'])].lookup b

/-- What follows a backslash. -/
def escaped : List Nat → Except Fault (List Char × Nat)
  | [] => .error ⟨1, "\\ at end of string"⟩
  | b :: rest =>
    if isOctal b then
      let digits := b :: (rest.take 2).takeWhile isOctal
      .ok ([charOf (digits.foldl (fun n d => n * 8 + (d - 0x30)) 0)], 1 + digits.length)
    else if b = 0x78 then number 2 rest "truncated \\xXX escape" "illegal Unicode character"
    else if b = 0x75 then number 4 rest "truncated \\uXXXX escape" "illegal Unicode character"
    else if b = 0x55 then number 8 rest "truncated \\UXXXXXXXX escape" "illegal Unicode character"
    else if b = 0x4E then byName rest
    else match letter? b with
      | some cs => .ok (cs, 2)
      | none => .ok (['\\', charOf b], 2)

/-- One character, with all escapes. -/
def step : Step
  | [] => .ok ([], 1)
  | b :: rest => if b = 0x5C then escaped rest else .ok ([charOf b], 1)

/-- One character, with numbers of four and eight digits as the only escapes. -/
def rawStep : Step
  | 0x5C :: b :: rest =>
    if b = 0x75 then number 4 rest "truncated \\uXXXX escape" ""
    else if b = 0x55 then number 8 rest "truncated \\UXXXXXXXX escape" "\\Uxxxxxxxx out of range"
    else .ok (['\\', charOf b], 2)
  | b :: _ => .ok ([charOf b], 1)
  | [] => .ok ([], 1)

end Diagnosis.Encoding.Escape
