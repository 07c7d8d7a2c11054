import Mathlib.Data.List.Induction
import Diagnosis.Proofs.Encoding.Utf8
import Diagnosis.Proofs.Text.Cut
import Diagnosis.Uri.File
import Diagnosis.Path

/-!
# Addresses and paths

The address of a path can be read back, so that it stands for no other path; and
so can the text of a path.
-/

namespace Diagnosis

namespace Uri

open Encoding
open Text (hexValue?)

/-! ## Addresses -/

theorem hexValue_upperHex {n : Nat} (digit : n < 16) : hexValue? (upperHex n) = some n := by
  have all : ∀ n : Fin 16, hexValue? (upperHex n) = some n.val := by decide
  exact all ⟨n, digit⟩

theorem toNat_ofNat {b : Nat} (small : b < 256) : (Char.ofNat b).toNat = b := by
  have valid : b.isValidChar := .inl (by omega)
  rw [Char.ofNat, dif_pos valid]
  rfl

theorem isPlain_ne {b : Nat} (plain : isPlain b = true) : b ≠ 37 := by
  rintro rfl
  cases plain

theorem unescape_cons_of_ne {c : Char} (plain : c ≠ '%') (rest : List Char) :
    unescape (c :: rest) = c.toNat :: unescape rest := by
  rw [unescape]
  rintro a b others percent _
  exact plain percent

/-- A byte in an address is read as that byte, whatever comes after it. -/
theorem unescape_escapeByte {b : Nat} (small : b < 256) (rest : List Char) :
    unescape (escapeByte b ++ rest) = b :: unescape rest := by
  unfold escapeByte
  by_cases plain : isPlain b = true
  · rw [if_pos plain, List.singleton_append, unescape_cons_of_ne, toNat_ofNat small]
    intro percent
    have same := congrArg Char.toNat percent
    rw [toNat_ofNat small] at same
    exact isPlain_ne plain same
  · rw [if_neg plain]
    simp only [List.cons_append, List.nil_append, unescape, hexValue_upperHex (show b / 16 < 16 by omega),
      hexValue_upperHex (show b % 16 < 16 by omega)]
    rw [Nat.div_add_mod]

theorem unescape_escape {bytes : List Nat} (small : ∀ b ∈ bytes, b < 256) :
    unescape (bytes.flatMap escapeByte) = bytes := by
  induction bytes with
  | nil => rfl
  | cons b rest ih =>
    rw [List.flatMap_cons, unescape_escapeByte (small b List.mem_cons_self),
      ih fun x member => small x (List.mem_cons_of_mem _ member)]

/-- No two paths have one address. -/
theorem ofPath_injective {p q : String} (same : ofPath p = ofPath q) : p = q := by
  unfold ofPath at same
  have texts := String.ofList_injective same
  have escaped := List.append_cancel_left texts
  have bytes := congrArg unescape escaped
  rw [unescape_escape fun b => Utf8.encode_lt, unescape_escape fun b => Utf8.encode_lt] at bytes
  exact String.toList_injective (Utf8.encode_injective bytes)

end Uri

namespace Path

/-! ## Texts of paths -/

/-- A path as a text gives it: its root is one of three, and its parts say something. -/
structure Plain (p : Path) : Prop where
  root : p.root = "" ∨ p.root = "/" ∨ p.root = "//"
  parts : ∀ part ∈ p.parts, '/' ∉ part.toList ∧ part.toList ≠ [] ∧ part.toList ≠ ['.']

theorem Plain.child {p : Path} (plain : p.Plain) {part : String}
    (named : '/' ∉ part.toList ∧ part.toList ≠ [] ∧ part.toList ≠ ['.']) : (p.child part).Plain where
  root := plain.root
  parts other member := by
    rcases List.mem_append.mp member with old | new
    · exact plain.parts other old
    · rwa [List.mem_singleton.mp new]

theorem Plain.take {p : Path} (plain : p.Plain) (n : Nat) : Plain { p with parts := p.parts.take n } where
  root := plain.root
  parts part member := plain.parts part (List.mem_of_mem_take member)

theorem Plain.parent {p : Path} (plain : p.Plain) : p.parent.Plain where
  root := plain.root
  parts part member := plain.parts part (List.dropLast_subset p.parts member)

theorem splitSlashes_eq_splitOn (cs : List Char) : splitSlashes cs = cs.splitOn '/' :=
  Text.eq_splitOn rfl (fun _ _ => rfl) cs

theorem slash_not_mem_splitSlashes {cs piece : List Char} (member : piece ∈ splitSlashes cs) : '/' ∉ piece := by
  rw [splitSlashes_eq_splitOn] at member
  exact Text.not_mem_of_mem_splitOn member

theorem splitSlashes_intercalate {first : List Char} {others : List (List Char)}
    (plain : ∀ piece ∈ first :: others, '/' ∉ piece) :
    splitSlashes (['/'].intercalate (first :: others)) = first :: others := by
  rw [splitSlashes_eq_splitOn]
  exact List.splitOn_intercalate '/' plain (List.cons_ne_nil first others)

theorem plain_ofString (s : String) : Plain (ofString s) := by
  constructor
  · unfold ofString rootOf
    dsimp only
    split <;> simp
  · intro part member
    obtain ⟨piece, inside, rfl⟩ := List.mem_map.mp member
    obtain ⟨split, kept⟩ := List.mem_filter.mp inside
    rw [String.toList_ofList]
    simp only [bne_iff_ne, ne_eq, Bool.and_eq_true] at kept
    exact ⟨slash_not_mem_splitSlashes split, kept.1, kept.2⟩

theorem toList_text {p : Path} (parts : p.parts ≠ []) :
    p.text.toList = p.root.toList ++ ['/'].intercalate (p.parts.map String.toList) := by
  have some_part : p.parts.isEmpty = false := List.isEmpty_eq_false_iff.mpr parts
  rw [text, some_part, Bool.and_false, if_neg Bool.false_ne_true, String.toList_append, String.toList_intercalate]
  rfl

theorem rootOf_relative {s : String} {c : Char} {cs : List Char} (chars : s.toList = c :: cs) (plain : c ≠ '/') :
    rootOf s = "" := by
  unfold rootOf
  rw [chars]
  split <;> simp_all

theorem rootOf_single {s : String} {c : Char} {cs : List Char} (chars : s.toList = '/' :: c :: cs) (plain : c ≠ '/') :
    rootOf s = "/" := by
  unfold rootOf
  rw [chars]
  split <;> simp_all

theorem rootOf_double {s : String} {c : Char} {cs : List Char} (chars : s.toList = '/' :: '/' :: c :: cs)
    (plain : c ≠ '/') : rootOf s = "//" := by
  unfold rootOf
  rw [chars]
  split
  · rename_i same
    cases same
    exact absurd rfl plain
  · rfl
  · rename_i two same
    cases same
    exact absurd rfl (two _)
  · rename_i one
    exact absurd rfl (one _)

/-- The path of the text of a path is that path. -/
theorem ofString_text {p : Path} (plain : Plain p) : ofString p.text = p := by
  obtain ⟨root, parts⟩ := p
  cases parts with
  | nil =>
    rcases plain.root with empty | single | double
    · change root = "" at empty
      subst empty
      rfl
    · change root = "/" at single
      subst single
      decide
    · change root = "//" at double
      subst double
      decide
  | cons part others =>
    have chars := toList_text (p := ⟨root, part :: others⟩) (List.cons_ne_nil part others)
    have pieced : ∀ piece ∈ (part :: others).map String.toList, '/' ∉ piece ∧ piece ≠ [] ∧ piece ≠ ['.'] := by
      intro piece member
      obtain ⟨x, inside, rfl⟩ := List.mem_map.mp member
      exact plain.parts x inside
    have split : splitSlashes (['/'].intercalate ((part :: others).map String.toList)) =
        (part :: others).map String.toList :=
      splitSlashes_intercalate fun piece member => (pieced piece member).1
    have kept : ((part :: others).map String.toList).filter (fun p => p != [] && p != ['.']) =
        (part :: others).map String.toList := by
      refine List.filter_eq_self.mpr fun piece member => ?_
      simp [(pieced piece member).2]
    have named : ((part :: others).map String.toList).map String.ofList = part :: others := by
      simp
    obtain ⟨c, cs, first⟩ : ∃ c cs, part.toList = c :: cs :=
      List.exists_cons_of_ne_nil (pieced part.toList List.mem_cons_self).2.1
    have plain_start : c ≠ '/' := by
      rintro rfl
      exact (pieced part.toList List.mem_cons_self).1 (by simp [first])
    obtain ⟨after, start⟩ : ∃ after, ['/'].intercalate ((part :: others).map String.toList) = c :: after := by
      cases others with
      | nil => exact ⟨cs, by simp [first]⟩
      | cons second more => exact ⟨_, by rw [List.map_cons, List.map_cons, List.intercalate_cons_cons, first]; rfl⟩
    rcases plain.root with empty | single | double
    · change root = "" at empty
      subst empty
      rw [String.toList_empty, List.nil_append] at chars
      rw [ofString, rootOf_relative (chars.trans start) plain_start, pieces, chars, split, kept, named]
    · change root = "/" at single
      subst single
      rw [show "/".toList = ['/'] from rfl, List.singleton_append] at chars
      rw [ofString, rootOf_single (chars.trans (by rw [start])) plain_start, pieces, chars, splitSlashes, if_pos rfl, split,
        List.filter_cons_of_neg (by simp), kept, named]
    · change root = "//" at double
      subst double
      rw [show "//".toList = ['/', '/'] from rfl, List.cons_append, List.singleton_append] at chars
      rw [ofString, rootOf_double (chars.trans (by rw [start])) plain_start, pieces, chars, splitSlashes, if_pos rfl,
        splitSlashes, if_pos rfl, split, List.filter_cons_of_neg (by simp), List.filter_cons_of_neg (by simp), kept,
        named]

theorem text_injective {p q : Path} (plain : Plain p) (plainToo : Plain q) (same : p.text = q.text) : p = q := by
  rw [← ofString_text plain, same, ofString_text plainToo]

end Path

end Diagnosis
