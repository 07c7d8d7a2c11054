import Diagnosis.Proofs.FileTree.Contents
import Diagnosis.Proofs.FileTree.Resolve

/-!
# Where paths lead

Wherever the system comes to on a path, the path resolves to that place. Resolving gives up at a
link that it comes back to while it is going through it, but no path that leads somewhere has one:
the link would have to lead through more links than it does.
-/
namespace Diagnosis.FileTree

variable {t : FileTree} {place there pieces : List String} {n depth : Nat}
  {seen seen' : Seen depth} {spot : Spot depth} {errands : List (Errand depth)}

/-! ## Where pieces lead -/

/-- Pieces lead from a place to another one, through exactly so many links. -/
inductive Leads (t : FileTree) : Nat → List String → List String → List String → Prop where
  | arrived (place : List String) : Leads t 0 place [] place
  | blank {n : Nat} {place there : List String} {piece : String} {rest : List String}
    (blank : piece = "" ∨ piece = ".") (onward : Leads t n place rest there) : Leads t n place (piece :: rest) there
  | up {n : Nat} {place there rest : List String} (onward : Leads t n place.dropLast rest there) :
    Leads t n place (".." :: rest) there
  | down {n : Nat} {place there : List String} {name : String} {rest : List String}
    (named : ¬ (name = "" ∨ name = ".")) (down : name ≠ "..")
    (unlinked : ∀ target, t.entry? (place ++ [name]) ≠ some (.link target))
    (onward : Leads t n (place ++ [name]) rest there) : Leads t n place (name :: rest) there
  | link {k n : Nat} {place mid there : List String} {name target : String} {rest : List String}
    (named : ¬ (name = "" ∨ name = ".")) (down : name ≠ "..")
    (linked : t.entry? (place ++ [name]) = some (.link target))
    (through : Leads t k (startOf place target) (rawPieces target) mid) (onward : Leads t n mid rest there) :
    Leads t (k + n + 1) place (name :: rest) there

/-- Pieces lead to one place, through one number of links. -/
theorem Leads.unique {m : Nat} {there' : List String} (leads : Leads t n place pieces there)
    (leads' : Leads t m place pieces there') : n = m ∧ there = there' := by
  induction leads generalizing m there' with
  | arrived place =>
    cases leads'
    exact ⟨rfl, rfl⟩
  | blank blank onward ih =>
    cases leads' with
    | blank _ onward' => exact ih onward'
    | up onward' => simp at blank
    | down named => exact absurd blank named
    | link named => exact absurd blank named
  | up onward ih =>
    cases leads' with
    | blank blank _ => simp at blank
    | up onward' => exact ih onward'
    | down _ down => exact absurd rfl down
    | link _ down => exact absurd rfl down
  | down named down unlinked onward ih =>
    cases leads' with
    | blank blank _ => exact absurd blank named
    | up _ => exact absurd rfl down
    | down _ _ _ onward' => exact ih onward'
    | link _ _ linked => exact absurd linked (unlinked _)
  | link named down linked through onward ihThrough ih =>
    cases leads' with
    | blank blank _ => exact absurd blank named
    | up _ => exact absurd rfl down
    | down _ _ unlinked => exact absurd linked (unlinked _)
    | link _ _ linked' through' onward' =>
      cases linked.symm.trans linked'
      obtain ⟨rfl, rfl⟩ := ihThrough through'
      obtain ⟨rfl, rfl⟩ := ih onward'
      exact ⟨rfl, rfl⟩

/-- Where all pieces lead, the first ones lead part of the way. -/
theorem Leads.split {first rest : List String} (leads : Leads t n place (first ++ rest) there) :
    ∃ k m mid, Leads t k place first mid ∧ Leads t m mid rest there := by
  induction first generalizing n place with
  | nil => exact ⟨0, n, place, .arrived place, leads⟩
  | cons piece first ih =>
    rcases leads with _ | ⟨blank, onward⟩ | ⟨onward⟩ | ⟨named, down, unlinked, onward⟩ |
      ⟨named, down, linked, through, onward⟩
    all_goals obtain ⟨k, m, mid, before, after⟩ := ih onward
    · exact ⟨k, m, mid, .blank blank before, after⟩
    · exact ⟨k, m, mid, .up before, after⟩
    · exact ⟨k, m, mid, .down named down unlinked before, after⟩
    · exact ⟨_, m, mid, .link named down linked through before, after⟩

/-- What leads on as well as some pieces do, does so behind one more piece. -/
theorem Leads.onward {piece : String} {rest rest' : List String}
    (on : ∀ n place, Leads t n place rest there → Leads t n place rest' there)
    (leads : Leads t n place (piece :: rest) there) : Leads t n place (piece :: rest') there := by
  rcases leads with _ | ⟨blank, onward⟩ | ⟨onward⟩ | ⟨named, down, unlinked, onward⟩ |
    ⟨named, down, linked, through, onward⟩
  · exact .blank blank (on _ _ onward)
  · exact .up (on _ _ onward)
  · exact .down named down unlinked (on _ _ onward)
  · exact .link named down linked through (on _ _ onward)

/-- Whether a piece says something. -/
def speaks (piece : String) : Bool := piece != "" && piece != "."

/-- Pieces that say nothing make no difference. -/
theorem leads_filter (pieces : List String) :
    Leads t n place (pieces.filter speaks) there ↔ Leads t n place pieces there := by
  induction pieces generalizing n place with
  | nil => exact Iff.rfl
  | cons piece rest ih =>
    by_cases blank : piece = "" ∨ piece = "."
    · have silent : ¬ speaks piece = true := by rcases blank with rfl | rfl <;> decide
      rw [List.filter_cons_of_neg silent, ih]
      constructor
      · exact .blank blank
      · rintro (_ | ⟨_, onward⟩ | ⟨onward⟩ | ⟨named⟩ | ⟨named⟩)
        · exact onward
        · simp at blank
        · exact absurd blank named
        · exact absurd blank named
    · have loud : speaks piece = true := by simpa [speaks, not_or] using blank
      rw [List.filter_cons_of_pos loud]
      exact ⟨.onward fun _ _ => ih.mp, .onward fun _ _ => ih.mpr⟩

/-- Pieces lead to a place that no link is on the way to. -/
theorem Leads.direct (leads : Leads t n place pieces there) (direct : Direct t place)
    (words : ∀ piece ∈ pieces, '/' ∉ piece.toList) : Direct t there := by
  induction leads with
  | arrived place => exact direct
  | blank _ _ ih => exact ih direct fun piece later => words piece (List.mem_cons_of_mem _ later)
  | up _ ih => exact ih direct.dropLast fun piece later => words piece (List.mem_cons_of_mem _ later)
  | @down n place there name rest named down unlinked onward ih =>
    rw [not_or] at named
    have word : '/' ∉ name.toList := words name List.mem_cons_self
    exact ih (direct.child ⟨named.1, named.2, down, word⟩ unlinked)
      fun piece later => words piece (List.mem_cons_of_mem _ later)
  | link _ _ _ _ _ ihThrough ih =>
    exact ih (ihThrough (direct.startOf _) fun _ => slash_not_mem_rawPieces)
      fun piece later => words piece (List.mem_cons_of_mem _ later)

/-! ## The system's way -/

theorem leads_of_descend {found : Option Entry} (went : t.descend true place pieces = .arrived there found) :
    Leads t 0 place pieces there := by
  induction pieces generalizing place with
  | nil =>
    cases went
    exact .arrived there
  | cons piece rest ih =>
    rw [descend] at went
    split at went
    · exact .blank ‹_› (ih went)
    · split at went
      · subst piece
        exact .up (ih went)
      · rename_i named down
        dsimp only at went
        split at went
        · rename_i absent
          split at went
          · rename_i last
            cases went
            rw [List.isEmpty_iff.mp last]
            exact .down named down (fun target => by rw [absent]; rintro ⟨⟩) (.arrived _)
          · cases went
        · rename_i present
          exact .down named down (fun target => by rw [present]; rintro ⟨⟩) (ih went)
        · rename_i present
          split at went
          · rename_i last
            cases went
            rw [List.isEmpty_iff.mp last]
            exact .down named down (fun target => by rw [present]; rintro ⟨⟩) (.arrived _)
          · cases went
        · rw [Bool.not_true, Bool.and_false, if_neg Bool.false_ne_true] at went
          cases went

/-- Where going down comes to a link, the pieces lead on as the link and what comes after it do. -/
theorem leads_of_linked {within rest : List String} {target : String}
    (went : t.descend true place pieces = .linked within target rest) {k : Nat} {mid : List String}
    (through : Leads t k (startOf within target) (rawPieces target) mid) (onward : Leads t n mid rest there) :
    Leads t (k + n + 1) place pieces there := by
  induction pieces generalizing place with
  | nil => cases went
  | cons piece others ih =>
    rw [descend] at went
    split at went
    · exact .blank ‹_› (ih went)
    · split at went
      · subst piece
        exact .up (ih went)
      · rename_i named down
        dsimp only at went
        split at went
        · split at went <;> cases went
        · rename_i present
          exact .down named down (fun target => by rw [present]; rintro ⟨⟩) (ih went)
        · split at went <;> cases went
        · rename_i linked
          rw [Bool.not_true, Bool.and_false, if_neg Bool.false_ne_true] at went
          cases went
          exact .link named down linked through onward

theorem leads_of_walk {links : Nat} {found : Option Entry} (went : t.walk true links place pieces = .ok (there, found)) :
    ∃ n, Leads t n place pieces there := by
  induction links generalizing place pieces with
  | zero =>
    rw [walk] at went
    split at went
    · cases went
      exact ⟨0, leads_of_descend ‹_›⟩
    · cases went
    · cases went
  | succ links ih =>
    rw [walk] at went
    split at went
    · cases went
      exact ⟨0, leads_of_descend ‹_›⟩
    · cases went
    · obtain ⟨n, leads⟩ := ih went
      obtain ⟨k, m, mid, through, onward⟩ := leads.split
      exact ⟨k + m + 1, leads_of_linked ‹_› through onward⟩

/-! ## Replacing links on the way -/

/-- Replaces links until nothing is left to do. -/
def settle (t : FileTree) (seen : Seen depth) (spot : Spot depth) (errands : List (Errand depth)) : String :=
  t.follow (errands.length + stepsLeft seen t.entries) seen spot errands

theorem settle_nil : t.settle seen spot [] = textOf spot.place := follow_nil ..

theorem settle_done (link : Spot depth) :
    t.settle seen spot (.done link :: errands) = t.settle ((link, some spot) :: seen) spot errands := by
  have fewer : stepsLeft ((link, some spot) :: seen) t.entries ≤ stepsLeft seen t.entries :=
    stepsLeft_cons_le link (some spot) t.entries
  unfold settle
  rw [List.length_cons, Nat.add_right_comm, follow]
  exact follow_enough (Nat.add_le_add_left fewer _) (Nat.le_refl _)

theorem settle_blank {name : String} (blank : name = "" ∨ name = ".") :
    t.settle seen spot (.piece name :: errands) = t.settle seen spot errands := by
  unfold settle
  rw [List.length_cons, Nat.add_right_comm, follow, if_pos blank]

theorem settle_up : t.settle seen spot (.piece ".." :: errands) = t.settle seen spot.up errands := by
  unfold settle
  rw [List.length_cons, Nat.add_right_comm, follow, if_neg (by decide), if_pos rfl]

section

variable {name target : String} (named : ¬ (name = "" ∨ name = ".")) (down : name ≠ "..")

include named down

theorem settle_down (unlinked : ∀ target, t.entry? (spot.place ++ [name]) ≠ some (.link target)) :
    t.settle seen spot (.piece name :: errands) = t.settle seen (spot.down name) errands := by
  unfold settle
  rw [List.length_cons, Nat.add_right_comm, follow, if_neg named, if_neg down]
  dsimp only
  split
  · exact absurd ‹_› (unlinked _)
  · rfl

variable (linked : t.entry? (spot.place ++ [name]) = some (.link target))

include linked

theorem settle_known {led : Spot depth} (known : seen.lookup (spot.down name) = some (some led)) :
    t.settle seen spot (.piece name :: errands) = t.settle seen led errands := by
  unfold settle
  rw [List.length_cons, Nat.add_right_comm, follow, if_neg named, if_neg down]
  dsimp only
  rw [Spot.place_down, linked]
  dsimp only
  rw [known]

theorem settle_link (unknown : seen.lookup (spot.down name) = none) :
    t.settle seen spot (.piece name :: errands) =
      t.settle ((spot.down name, none) :: seen) (spot.start target)
        ((rawPieces target).map .piece ++ .done (spot.down name) :: errands) := by
  have there : ((spot.down name).place, .link target) ∈ t.entries := mem_entries_of_link linked
  have fewer := stepsLeft_cons_lt there unknown
  unfold settle
  rw [List.length_cons, Nat.add_right_comm, follow, if_neg named, if_neg down]
  dsimp only
  rw [Spot.place_down, linked]
  dsimp only
  rw [unknown]
  refine follow_enough ?_ (Nat.le_refl _)
  rw [List.length_append, List.length_map, List.length_cons]
  omega

end

/-- A link leads to a place, through exactly so many others. -/
def Through (t : FileTree) (n : Nat) (link there : List String) : Prop :=
  ∃ place name target, link = place ++ [name] ∧ t.entry? link = some (.link target) ∧
    Leads t n (startOf place target) (rawPieces target) there

theorem Through.unique {m : Nat} {link there' : List String} (through : Through t n link there)
    (through' : Through t m link there') : n = m ∧ there = there' := by
  obtain ⟨place, name, target, rfl, linked, leads⟩ := through
  obtain ⟨place', name', target', same, linked', leads'⟩ := through'
  obtain ⟨rfl, _⟩ := List.append_inj' same rfl
  cases linked.symm.trans linked'
  exact leads.unique leads'

/-- What is known of the links come to so far is right, as long as what is left leads through no more
than `n` links: none of those that are being gone through is among them. -/
structure Known (t : FileTree) (n : Nat) (seen : Seen depth) : Prop where
  led : ∀ link spot, seen.lookup link = some (some spot) → ∃ k, Through t k link.place spot.place
  open_ : ∀ link, seen.lookup link = some none → ∀ k there, Through t k link.place there → n ≤ k

theorem known_nil (t : FileTree) (n : Nat) : Known t n ([] : Seen depth) where
  led _ _ listed := nomatch listed
  open_ _ listed := nomatch listed

theorem Known.mono {m : Nat} (known : Known t n seen) (fewer : m ≤ n) : Known t m seen where
  led := known.led
  open_ link listed k there through := Nat.le_trans fewer (known.open_ link listed k there through)

/-- A link is begun that leads through no more others than are left. -/
theorem Known.begun {k : Nat} {link : Spot depth} {mid : List String} (known : Known t n seen) (fewer : k ≤ n)
    (through : Through t k link.place mid) : Known t k ((link, none) :: seen) where
  led other spot listed := by
    rw [List.lookup_cons] at listed
    split at listed
    · cases listed
    · exact known.led other spot listed
  open_ other listed m there through' := by
    rw [List.lookup_cons] at listed
    split at listed
    · rename_i same
      rw [← eq_of_beq same] at through
      exact Nat.le_of_eq (through.unique through').1
    · exact Nat.le_trans fewer (known.open_ other listed m there through')

/-- More links have been gone through, and where they lead has been found right. -/
def Grown (t : FileTree) (seen seen' : Seen depth) : Prop :=
  ∀ link, seen'.lookup link = seen.lookup link ∨
    ∃ k spot, seen'.lookup link = some (some spot) ∧ Through t k link.place spot.place

theorem Grown.refl (t : FileTree) (seen : Seen depth) : Grown t seen seen :=
  fun _ => .inl rfl

theorem Grown.trans {seen'' : Seen depth} (grown : Grown t seen seen') (further : Grown t seen' seen'') :
    Grown t seen seen'' := by
  intro link
  rcases further link with same | new
  · rw [same]
    exact grown link
  · exact .inr new

/-- A link has been gone through. -/
theorem Grown.ended {k : Nat} {link : Spot depth} (grown : Grown t ((link, none) :: seen) seen')
    (through : Through t k link.place spot.place) : Grown t seen ((link, some spot) :: seen') := by
  intro other
  rw [List.lookup_cons]
  split
  · rename_i same
    rw [eq_of_beq same]
    exact .inr ⟨k, spot, rfl, through⟩
  · rename_i different
    rcases grown other with same | new
    · rw [List.lookup_cons, different] at same
      exact .inl same
    · exact .inr new

theorem Known.grown (known : Known t n seen) (grown : Grown t seen seen') : Known t n seen' where
  led link spot listed := by
    rcases grown link with same | ⟨k, led, listed', through⟩
    · exact known.led link spot (same ▸ listed)
    · cases listed'.symm.trans listed
      exact ⟨k, through⟩
  open_ link listed := by
    rcases grown link with same | ⟨_, _, listed', _⟩
    · exact known.open_ link (same ▸ listed)
    · cases listed'.symm.trans listed

/-- Replacing links leads where the pieces do, and on from there. -/
theorem settle_leads (leads : Leads t n place pieces there) (here : spot.place = place) (known : Known t n seen)
    (errands : List (Errand depth)) :
    ∃ seen' spot', spot'.place = there ∧ Grown t seen seen' ∧
      t.settle seen spot (pieces.map .piece ++ errands) = t.settle seen' spot' errands := by
  induction leads generalizing seen spot errands with
  | arrived place => exact ⟨seen, spot, here, Grown.refl t seen, rfl⟩
  | blank blank _ ih =>
    obtain ⟨seen', spot', arrived, grown, settled⟩ := ih here known errands
    exact ⟨seen', spot', arrived, grown, (settle_blank blank).trans settled⟩
  | up _ ih =>
    subst here
    obtain ⟨seen', spot', arrived, grown, settled⟩ := ih (Spot.place_up spot) known errands
    exact ⟨seen', spot', arrived, grown, settle_up.trans settled⟩
  | @down _ _ _ name _ named down unlinked _ ih =>
    subst here
    obtain ⟨seen', spot', arrived, grown, settled⟩ := ih (Spot.place_down spot name) known errands
    exact ⟨seen', spot', arrived, grown, (settle_down named down unlinked).trans settled⟩
  | @link k n place mid there name target rest named down linked leads _ ihThrough ih =>
    subst here
    have through : Through t k (spot.down name).place mid := ⟨spot.place, name, target, rfl, linked, leads⟩
    cases come : seen.lookup (spot.down name) with
    | none =>
      obtain ⟨seen₁, spot₁, rfl, grown₁, settled₁⟩ := ihThrough (Spot.place_start spot target)
        (known.begun (by omega) through) (.done (spot.down name) :: (rest.map .piece ++ errands))
      have ended := grown₁.ended through
      obtain ⟨seen₂, spot₂, arrived, grown₂, settled₂⟩ := ih rfl ((known.grown ended).mono (by omega)) errands
      refine ⟨seen₂, spot₂, arrived, ended.trans grown₂, ?_⟩
      rw [List.map_cons, List.cons_append, settle_link named down linked come, settled₁, settle_done, settled₂]
    | some led =>
      cases led with
      | none =>
        -- the link would lead through more links than it does
        have many := known.open_ _ come k mid through
        omega
      | some led =>
        obtain ⟨m, through'⟩ := known.led _ led come
        obtain ⟨rfl, rfl⟩ := through.unique through'
        obtain ⟨seen', spot', arrived, grown, settled⟩ := ih rfl (known.mono (by omega)) errands
        exact ⟨seen', spot', arrived, grown, (settle_known named down linked come).trans settled⟩

/-- Replacing the links of a path leads where its pieces do, however the place is written that it
begins at. -/
theorem follow_leads (leads : Leads t n spot.place pieces there) :
    t.follow (t.stepsFor depth pieces) [] spot (pieces.map .piece) = textOf there := by
  obtain ⟨seen', spot', arrived, _, settled⟩ := settle_leads leads rfl (known_nil t n) []
  rw [List.append_nil, settle_nil, arrived] at settled
  rw [← settled]
  refine follow_enough ?_ (Nat.le_refl _)
  rw [stepsFor_eq, List.length_map]
  omega

/-! ## Texts of paths -/

theorem filter_rawPieces (s : String) : (rawPieces s).filter speaks = Path.pieces s := by
  unfold rawPieces Path.pieces
  rw [List.filter_map]
  congr 1
  refine List.filter_congr fun piece _ => ?_
  have empty : (String.ofList piece != "") = (piece != []) := by
    rw [Bool.eq_iff_iff, bne_iff_ne, bne_iff_ne, ne_eq, ← String.toList_inj, String.toList_ofList]
    rfl
  have dot : (String.ofList piece != ".") = (piece != ['.']) := by
    rw [Bool.eq_iff_iff, bne_iff_ne, bne_iff_ne, ne_eq, ← String.toList_inj, String.toList_ofList]
    rfl
  rw [Function.comp_apply, speaks, empty, dot]

theorem startsWith_slash_iff (path : String) : path.startsWith "/" = true ↔ Path.rootOf path ≠ "" := by
  rw [String.startsWith_string_iff, show ("/" : String).toList = ['/'] from rfl]
  unfold Path.rootOf
  split
  · rename_i chars
    rw [chars]
    simp
  · rename_i chars
    rw [chars]
    simp
  · rename_i chars
    rw [chars]
    simp
  · rename_i relative
    simp only [ne_eq, not_true_eq_false, iff_false]
    rintro ⟨rest, chars⟩
    exact relative rest chars.symm

/-- What a path begins at is told by its root. -/
theorem startOf_eq (directory : List String) (path : String) :
    startOf directory path = if Path.rootOf path ≠ "" then [] else directory := by
  unfold startOf
  simp only [startsWith_slash_iff]

/-- A path leads where it does when it is shown as it is taken apart. -/
theorem leads_ofString (directory : List String) (path : String) :
    Leads t n (startOf directory (Path.ofString path).text) (rawPieces (Path.ofString path).text) there ↔
      Leads t n (startOf directory path) (rawPieces path) there := by
  have same := Path.ofString_text (Path.plain_ofString path)
  generalize (Path.ofString path).text = shown at same ⊢
  have root : Path.rootOf shown = Path.rootOf path := congrArg Path.root same
  have parts : Path.pieces shown = Path.pieces path := congrArg Path.parts same
  rw [← leads_filter, filter_rawPieces, startOf_eq, root, parts, ← startOf_eq, ← filter_rawPieces, leads_filter]

/-- Wherever the system comes to on a path, the path resolves to that place. -/
theorem resolve_of_locate {directory : List String} {path : String} (start : Direct t (startOf directory path))
    (clean : '\x00' ∉ path.toList) {found : Option Entry}
    (went : t.locate true directory path = .ok (there, found)) : t.resolve directory path = .ok ⟨"/", there⟩ := by
  unfold locate at went
  split at went
  · cases went
  · obtain ⟨n, leads⟩ := leads_of_walk went
    have direct : Direct t there := leads.direct start fun _ => slash_not_mem_rawPieces
    unfold resolve
    rw [if_neg (by simpa using clean)]
    dsimp only
    have shown := (leads_ofString directory path).mpr leads
    rw [← Spot.place_current directory, ← Spot.place_start] at shown
    rw [follow_leads shown, direct.normalize]
    split
    · exact absurd ‹_› (locate_textOf direct true directory)
    · rw [direct.ofString]

end Diagnosis.FileTree
