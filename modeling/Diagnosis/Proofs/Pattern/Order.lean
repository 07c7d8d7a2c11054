import Diagnosis.Pattern.Search

/-!
# Matches in order

Matching never goes back: what follows a node is matched where the node is, or
later. So a match ends no earlier than it begins, and the matches in a text come in
the order of their positions.
-/

namespace Diagnosis.Pattern

/-! ## What follows is matched later -/

/-- What is left to be matched after a part begins no earlier than the part. -/
def Onward (body : Continuation → Continuation) : Prop :=
  ∀ after p q, body after p = some q → ∃ p', p.pos ≤ p'.pos ∧ after p' = some q

theorem Onward.comp {first second : Continuation → Continuation} (goes : Onward first) (goesOn : Onward second) :
    Onward fun after => first (second after) := by
  intro after p q found
  obtain ⟨p', later, others⟩ := goes _ p q found
  obtain ⟨p'', latest, same⟩ := goesOn after p' q others
  exact ⟨p'', Nat.le_trans later latest, same⟩

theorem Onward.greedily {body : Continuation → Continuation} (onward : Onward body) (least : Nat) (most : Option Nat)
    (fuel count : Nat) (last : Option Nat) :
    Onward fun after => Pattern.greedily body least most after fuel count last := by
  induction fuel generalizing count last with
  | zero =>
    intro after p q found
    cases found
  | succ fuel ih =>
    intro after p q found
    simp only [Pattern.greedily] at found
    split at found
    · exact onward.comp (ih _ _) after p q found
    · split at found
      · split at found
        · rename_i went
          cases found
          exact onward.comp (ih _ _) after p q went
        · exact ⟨p, Nat.le_refl _, found⟩
      · exact ⟨p, Nat.le_refl _, found⟩

theorem Onward.reluctantly {body : Continuation → Continuation} (onward : Onward body) (least : Nat)
    (most : Option Nat) (fuel count : Nat) (last : Option Nat) :
    Onward fun after => Pattern.reluctantly body least most after fuel count last := by
  induction fuel generalizing count last with
  | zero =>
    intro after p q found
    cases found
  | succ fuel ih =>
    intro after p q found
    simp only [Pattern.reluctantly] at found
    split at found
    · exact onward.comp (ih _ _) after p q found
    · split at found
      · rename_i ended
        cases found
        exact ⟨p, Nat.le_refl _, ended⟩
      · split at found
        · exact onward.comp (ih _ _) after p q found
        · cases found

theorem possessively_onward {body : Continuation} (onward : ∀ p q, body p = some q → p.pos ≤ q.pos) {least : Nat}
    {most : Option Nat} {fuel count : Nat} {last : Option Nat} {p q : Place}
    (found : possessively body least most fuel count last p = some q) : p.pos ≤ q.pos := by
  induction fuel generalizing count last p with
  | zero => cases found
  | succ fuel ih =>
    simp only [possessively] at found
    split at found
    · split at found
      · rename_i went
        exact Nat.le_trans (onward _ _ went) (ih found)
      · cases found
    · split at found
      · split at found
        · rename_i went
          exact Nat.le_trans (onward _ _ went) (ih found)
        · cases found
          exact Nat.le_refl _
      · cases found
        exact Nat.le_refl _

/-- What follows a node is matched where the node is or later. -/
theorem Node.onward (text : Array Char) (node : Node) : Onward (node.run text) := by
  induction node with
  | empty => exact fun after p q found => ⟨p, Nat.le_refl _, found⟩
  | one t =>
    intro after p q found
    simp only [Node.run] at found
    split at found
    · split at found
      · exact ⟨p.forward 1, Nat.le_add_right .., found⟩
      · cases found
    · cases found
  | anchor a =>
    intro after p q found
    simp only [Node.run] at found
    split at found
    · exact ⟨p, Nat.le_refl _, found⟩
    · cases found
  | seq first second goes goesOn => exact goes.comp goesOn
  | either first second goes goesToo =>
    intro after p q found
    simp only [Node.run] at found
    split at found
    · rename_i went
      cases found
      exact goes after p q went
    · exact goesToo after p q found
  | group number body goes =>
    intro after p q found
    obtain ⟨p', later, same⟩ := goes _ _ q found
    exact ⟨p'.closes number, later, same⟩
  | again number folding =>
    intro after p q found
    simp only [Node.run] at found
    split at found
    · cases found
    · split at found
      · exact ⟨_, Nat.le_add_right .., found⟩
      · cases found
  | ifGroup number yes no goes goesToo =>
    intro after p q found
    simp only [Node.run] at found
    split at found
    · exact goes after p q found
    · exact goesToo after p q found
  | ahead absent body _ =>
    intro after p q found
    simp only [Node.run] at found
    split at found
    · rename_i q' _
      split at found
      · cases found
      · exact ⟨q'.moved p.pos, Nat.le_refl _, found⟩
    · split at found
      · exact ⟨p, Nat.le_refl _, found⟩
      · cases found
  | behind absent least most body _ =>
    intro after p q found
    simp only [Node.run] at found
    split at found
    · split at found
      · exact ⟨p, Nat.le_refl _, found⟩
      · cases found
    · split at found
      · rename_i q' _
        split at found
        · cases found
        · exact ⟨q'.moved p.pos, Nat.le_refl _, found⟩
      · split at found
        · exact ⟨p, Nat.le_refl _, found⟩
        · cases found
  | atomic body goes =>
    intro after p q found
    simp only [Node.run] at found
    split at found
    · rename_i q' went
      obtain ⟨_, later, ended⟩ := goes some p q' went
      cases ended
      exact ⟨q', later, found⟩
    · cases found
  | many greed least most body goes =>
    intro after p q found
    cases greed with
    | greedy => exact goes.greedily least most _ 0 none after p q found
    | reluctant => exact goes.reluctantly least most _ 0 none after p q found
    | possessive =>
      simp only [Node.run] at found
      split at found
      · rename_i q' went
        refine ⟨q', possessively_onward (fun p q went => ?_) went, found⟩
        obtain ⟨_, later, ended⟩ := goes some p q went
        cases ended
        exact later
      · cases found

/-! ## Matches in a text -/

variable (p : Pattern) (text : Array Char)

theorem matchAt_onward {pos : Nat} {mayBeEmpty : Bool} {place : Place}
    (found : p.matchAt text pos mayBeEmpty = some place) : pos ≤ place.pos := by
  obtain ⟨q, later, ended⟩ := p.node.onward text _ _ _ found
  split at ended
  · cases ended
    exact later
  · cases ended

theorem searchUpTo_bounds {n pos : Nat} {mayBeEmpty : Bool} {f : Found}
    (found : p.searchUpTo text pos mayBeEmpty n = some f) : pos ≤ f.start ∧ f.start < pos + n ∧ f.start ≤ f.stop := by
  induction n generalizing pos mayBeEmpty with
  | zero => cases found
  | succ n ih =>
    rw [searchUpTo] at found
    split at found
    · rename_i place matched
      cases found
      exact ⟨Nat.le_refl _, by simp, p.matchAt_onward text matched⟩
    · obtain ⟨later, inside, ends⟩ := ih found
      exact ⟨by omega, by omega, ends⟩

/-- A search finds a match in the text that begins no earlier than the search. -/
theorem searchFrom_bounds {pos : Nat} {mayBeEmpty : Bool} {f : Found}
    (found : p.searchFrom text pos mayBeEmpty = some f) : pos ≤ f.start ∧ f.start ≤ text.size ∧ f.start ≤ f.stop := by
  obtain ⟨later, inside, ends⟩ := p.searchUpTo_bounds text found
  exact ⟨later, by omega, ends⟩

theorem findAllFrom_ordered (fuel pos : Nat) (mayBeEmpty : Bool) :
    (∀ f ∈ p.findAllFrom text fuel pos mayBeEmpty, pos ≤ f.start ∧ f.start ≤ text.size) ∧
    (p.findAllFrom text fuel pos mayBeEmpty).Pairwise fun f g => f.start ≤ g.start := by
  induction fuel generalizing pos mayBeEmpty with
  | zero => exact ⟨fun f member => absurd member List.not_mem_nil, .nil⟩
  | succ fuel ih =>
    rw [findAllFrom]
    cases found : p.searchFrom text pos mayBeEmpty with
    | none => exact ⟨fun f member => absurd member List.not_mem_nil, .nil⟩
    | some f =>
      obtain ⟨later, inside, ends⟩ := p.searchFrom_bounds text found
      obtain ⟨others, ordered⟩ := ih f.stop (f.stop != f.start)
      refine ⟨fun g member => ?_, List.pairwise_cons.mpr ⟨fun g member => ?_, ordered⟩⟩
      · rcases List.mem_cons.mp member with rfl | among
        · exact ⟨later, inside⟩
        · have := others g among
          omega
      · exact Nat.le_trans ends (others g member).1

end Diagnosis.Pattern
