import Diagnosis.Unicode.Names.Aliases
import Diagnosis.Unicode.Names.Alphabets
import Diagnosis.Unicode.Names.Ancient
import Diagnosis.Unicode.Names.Glyphs
import Diagnosis.Unicode.Names.Notations
import Diagnosis.Unicode.Names.Signs
import Diagnosis.Unicode.Names.Syllabaries
import Diagnosis.Unicode.Ranges

/-!
# Characters by name

A name stands for at most one code point. Syllables of Hangul and unified
ideographs have names made by a rule, and so have a few numbered families; all
others are in tables. Only the names of the first two depend on case.
-/

namespace Diagnosis.Unicode

/-! ## Names by rule -/

/-- The value of upper-case hexadecimal digits. -/
def upperHex? (cs : List Char) : Option Nat :=
  cs.foldlM (fun n c =>
    if c.isDigit then some (16 * n + (c.toNat - '0'.toNat))
    else if 'A' ≤ c && c ≤ 'F' then some (16 * n + (c.toNat - 'A'.toNat + 10))
    else none) 0

/-- What follows a prefix. -/
def after? (start name : String) : Option (List Char) :=
  if name.startsWith start then some (name.toList.drop start.length) else none

/-- The unified ideographs. -/
def unified : List (Nat × Nat) := [
  (0x3400, 0x4DBF), (0x4E00, 0x9FFF), (0x20000, 0x2A6DF), (0x2A700, 0x2B738), (0x2B740, 0x2B81D),
  (0x2B820, 0x2CEA1), (0x2CEB0, 0x2EBE0), (0x30000, 0x3134A)]

/-- The unified ideograph of a name. -/
def ideograph? (name : String) : Option Nat := do
  let digits ← after? "CJK UNIFIED IDEOGRAPH-" name
  if digits.length = 4 ∨ digits.length = 5 then
    (upperHex? digits).filter fun n => unified.any fun (first, last) => first ≤ n && n ≤ last
  else none

/-- The letters that a syllable may begin with. -/
def leads : List String :=
  ["G", "GG", "N", "D", "DD", "R", "M", "B", "BB", "S", "SS", "", "J", "JJ", "C", "K", "T", "P", "H"]

/-- The vowels. -/
def vowels : List String :=
  ["A", "AE", "YA", "YAE", "EO", "E", "YEO", "YE", "O", "WA", "WAE", "OE", "YO", "U", "WEO", "WE", "WI", "YU",
   "EU", "YI", "I"]

/-- The letters that a syllable may end with. -/
def trails : List String :=
  ["", "G", "GG", "GS", "N", "NJ", "NH", "D", "L", "LG", "LM", "LB", "LS", "LT", "LP", "LH", "M", "B", "BS", "S",
   "SS", "NG", "J", "C", "K", "T", "P", "H"]

/-- The longest of some letters that the front of a name spells, by its place, and what follows. -/
def longest? (letters : List String) (name : List Char) : Option (Nat × List Char) :=
  letters.zipIdx.foldl (fun best (letter, place) =>
    if letter.toList.isPrefixOf name then
      match best with
      | some (_, rest) =>
        if name.length - letter.length < rest.length then some (place, name.drop letter.length) else best
      | none => some (place, name.drop letter.length)
    else best) none

/-- The syllable of a name: a lead, a vowel and a trail, each as long as it can be. -/
def syllable? (name : String) : Option Nat := do
  let rest ← after? "HANGUL SYLLABLE " name
  let (lead, rest) ← longest? leads rest
  let (vowel, rest) ← longest? vowels rest
  let (trail, rest) ← longest? trails rest
  if rest.isEmpty then some (0xAC00 + (lead * 21 + vowel) * 28 + trail) else none

/-- Families of which each member is called by its own number. -/
def families : List (String × Nat × Nat) := [
  ("CJK COMPATIBILITY IDEOGRAPH-", 0xF900, 0xFA6D),
  ("CJK COMPATIBILITY IDEOGRAPH-", 0xFA70, 0xFAD9),
  ("CJK COMPATIBILITY IDEOGRAPH-", 0x2F800, 0x2FA1D),
  ("KHITAN SMALL SCRIPT CHARACTER-", 0x18B00, 0x18CD5),
  ("NUSHU CHARACTER-", 0x1B170, 0x1B2FB)]

/-- The member of a family that a name is about. -/
def member? (name : String) : Option Nat :=
  families.findSome? fun (start, first, last) => do
    let digits ← after? start name
    if digits.head? = some '0' then none
    else (upperHex? digits).filter fun n => first ≤ n && n ≤ last

/-- The variation selector of an abbreviation. -/
def selector? (name : String) : Option Nat := do
  let digits ← after? "VS" name
  if digits.head? = some '0' ∨ !digits.all Char.isDigit then none
  else
    let n := digits.foldl (fun n c => 10 * n + (c.toNat - '0'.toNat)) 0
    if 1 ≤ n ∧ n ≤ 16 then some (0xFE00 + n - 1)
    else if 17 ≤ n ∧ n ≤ 256 then some (0xE0100 + n - 17)
    else none

/-! ## Names in tables -/

/-- The words of a name, given those of the name before it. -/
def wordsAfter (before : List String) (entry : String) : List String :=
  match entry.toList with
  | c :: cs =>
    if c.isDigit then before.take (c.toNat - '0'.toNat) ++ (String.ofList cs).splitOn " " else entry.splitOn " "
  | [] => []

/-- The place of a name among those of a run. -/
def placeIn (words : List String) : List String → List String → Nat → Option Nat
  | [], _, _ => none
  | entry :: entries, before, place =>
    let here := wordsAfter before entry
    if here = words then some place else placeIn words entries here (place + 1)

/-- The code point that a table has for a name. -/
def tabled? (words : List String) (table : List (Nat × String)) : Option Nat :=
  table.findSome? fun (first, entries) => (placeIn words (entries.splitOn ";") [] 0).map (first + ·)

/-- The code point that is also called by a name. -/
def aliased? (name : String) : Option Nat :=
  (Names.aliases.find? fun (_, names) => (names.splitOn ";").contains name).map Prod.fst

/-- All tables. -/
def tables : List (List (Nat × String)) :=
  [Names.alphabets, Names.signs, Names.syllabaries, Names.ancient, Names.glyphs, Names.notations]

/-- The code point with a name. -/
def named? (name : String) : Option Nat :=
  if name.startsWith "HANGUL SYLLABLE " then syllable? name
  else if name.startsWith "CJK UNIFIED IDEOGRAPH-" then ideograph? name
  else
    let upper := name.map Char.toUpper
    (member? upper).or ((selector? upper).or ((aliased? upper).or (tables.findSome? (tabled? (upper.splitOn " ")))))

end Diagnosis.Unicode
