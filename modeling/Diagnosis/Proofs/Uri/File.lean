import Diagnosis.Proofs.Address
import Diagnosis.Proofs.FileTree.Rooted
import Diagnosis.Proofs.Result

/-!
# Addresses of files lead back to them

The address of a path that begins at the root is read as that path.
-/

namespace Diagnosis

namespace Encoding.Utf8

/-- Where nothing has to be replaced, bytes are read as they are read without replacing. -/
theorem decodeLossyFrom_of_decodeFrom {decoder : String} {fuel position : Nat} {bytes : List Nat} {cs : List Char}
    (read : decodeFrom decoder step fuel position bytes = .ok cs) : decodeLossyFrom fuel bytes = cs := by
  induction fuel generalizing position bytes cs with
  | zero =>
    cases read
    rfl
  | succ fuel ih =>
    cases bytes with
    | nil =>
      cases read
      rfl
    | cons b bs =>
      rw [decodeFrom] at read
      rw [decodeLossyFrom]
      cases stepped : step (b :: bs) with
      | error fault =>
        rw [stepped] at read
        cases read
      | ok front =>
        rw [stepped] at read
        obtain ⟨rest, later, whole⟩ := bind_eq_ok_iff.mp read
        cases whole
        dsimp only
        rw [ih later]

/-- No character of a text is lost. -/
theorem decodeLossy_encode (cs : List Char) : decodeLossy (encode cs) = cs :=
  decodeLossyFrom_of_decodeFrom (decode_encode cs)

end Encoding.Utf8

namespace Uri

open Encoding

/-- A text of ASCII has its escapes undone in one stretch. -/
theorem unescapeText_ascii {ascii cs : List Char} (small : ∀ c ∈ cs, c.toNat < 128) :
    unescapeText ascii cs = Utf8.decodeLossy (unescape (ascii.reverse ++ cs)) := by
  induction cs generalizing ascii with
  | nil => rw [unescapeText, List.append_nil]
  | cons c rest ih =>
    rw [unescapeText, if_pos (small c List.mem_cons_self), ih fun x later => small x (List.mem_cons_of_mem _ later),
      List.reverse_cons, List.append_assoc, List.singleton_append]

/-- A character that stands for itself in the path of an address. -/
def Inert (c : Char) : Prop := c ≠ '\t' ∧ c ≠ '\r' ∧ c ≠ '\n' ∧ c ≠ '#' ∧ c ≠ '?' ∧ c.toNat < 128

instance (c : Char) : Decidable (Inert c) := inferInstanceAs (Decidable (_ ∧ _))

theorem inert_escapeByte {b : Nat} (small : b < 256) {c : Char} (member : c ∈ escapeByte b) : Inert c := by
  have all : ∀ b : Fin 256, (escapeByte b.val).all (fun c => decide (Inert c)) = true := by decide +kernel
  exact of_decide_eq_true (List.all_eq_true.mp (all ⟨b, small⟩) c member)

theorem toList_ofPath (path : String) : (ofPath path).toList =
    ['f', 'i', 'l', 'e', ':', '/', '/'] ++ (Utf8.encode path.toList).flatMap escapeByte := by
  have front : "file://".toList = ['f', 'i', 'l', 'e', ':', '/', '/'] := rfl
  unfold ofPath
  rw [String.toList_ofList]
  rw [front]

/-- The escapes of a path from the root begin with its slash. -/
theorem escaped_rooted {cs : List Char} (rooted : cs.head? = some '/') :
    ∃ rest, (Utf8.encode cs).flatMap escapeByte = '/' :: rest := by
  obtain ⟨others, rfl⟩ := List.head?_eq_some_iff.mp rooted
  exact ⟨_, rfl⟩

/-- The address of a path from the root is read as that path. -/
theorem toPath_ofPath_rooted {path : String} (rooted : Rooted path) :
    toPath (ofPath path) = .ok path := by
  have inert : ∀ c ∈ (Utf8.encode path.toList).flatMap escapeByte, Inert c := by
    intro c member
    obtain ⟨b, byte, inside⟩ := List.mem_flatMap.mp member
    exact inert_escapeByte (Utf8.encode_lt byte) inside
  have read : unescapeText [] ((Utf8.encode path.toList).flatMap escapeByte) = path.toList := by
    rw [unescapeText_ascii fun c member => (inert c member).2.2.2.2.2, List.reverse_nil, List.nil_append,
      unescape_escape fun b => Utf8.encode_lt, Utf8.decodeLossy_encode]
  obtain ⟨rest, slash⟩ := escaped_rooted rooted
  rw [slash] at inert read
  have kept : (['f', 'i', 'l', 'e', ':', '/', '/'] ++ '/' :: rest).filter
      (fun c => c != '\t' && c != '\r' && c != '\n') = ['f', 'i', 'l', 'e', ':', '/', '/'] ++ '/' :: rest := by
    refine List.filter_eq_self.mpr fun c member => ?_
    rcases List.mem_append.mp member with front | escaped
    · have all : ['f', 'i', 'l', 'e', ':', '/', '/'].all (fun c => c != '\t' && c != '\r' && c != '\n') = true := by
        decide
      exact List.all_eq_true.mp all c front
    · obtain ⟨tab, cr, newline, _⟩ := inert c escaped
      simp [tab, cr, newline]
  have ended : ('/' :: rest).takeWhile (fun c => c != '#' && c != '?') = '/' :: rest := by
    refine List.takeWhile_eq_self_iff.mpr fun c member => ?_
    obtain ⟨_, _, _, fragment, query, _⟩ := inert c member
    simp [fragment, query]
  have start : (ofPath path).toList.dropWhile isControlOrSpace = ['f', 'i', 'l', 'e', ':', '/', '/'] ++ '/' :: rest := by
    have letter : isControlOrSpace 'f' = false := by decide
    rw [toList_ofPath, slash, List.cons_append, List.dropWhile_cons, letter, if_neg Bool.false_ne_true]
  unfold toPath
  dsimp only
  rw [start, kept]
  have scheme : splitScheme (['f', 'i', 'l', 'e', ':', '/', '/'] ++ '/' :: rest) =
      ("file".toList, '/' :: '/' :: '/' :: rest) := by
    have front : (['f', 'i', 'l', 'e', ':', '/', '/'] ++ '/' :: rest).takeWhile (· != ':') = ['f', 'i', 'l', 'e'] := by
      simp [List.takeWhile]
    have short : ['f', 'i', 'l', 'e'].length < (['f', 'i', 'l', 'e', ':', '/', '/'] ++ '/' :: rest).length := by
      simp
    have named : (['f', 'i', 'l', 'e'].head?.any Char.isAlpha && ['f', 'i', 'l', 'e'].all inScheme) = true := by
      decide
    unfold splitScheme
    dsimp only
    rw [front, decide_eq_true short, Bool.true_and, named]
    rfl
  have host : splitHost ('/' :: '/' :: '/' :: rest) = ([], '/' :: rest) := rfl
  rw [scheme]
  dsimp only
  rw [host]
  dsimp only
  rw [show hostFault? [] = none from rfl, show disguiseFault? [] = none from rfl]
  dsimp only
  rw [if_pos rfl, ended, read, String.ofList_toList]

end Uri

end Diagnosis
