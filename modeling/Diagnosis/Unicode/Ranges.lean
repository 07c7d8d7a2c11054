/-!
# Sets of code points

A set of code points as closed ranges in increasing order, and membership by
halving. A run of equal shifts is the same thing for a map between code points.
-/

namespace Diagnosis.Unicode

/-- Closed ranges of code points, in increasing order and apart from each other. -/
structure Ranges where
  spans : Array (Nat × Nat)

/-- Whether a code point is in one of the ranges numbered from `low` up to `high`. -/
def Ranges.within (r : Ranges) (c low high : Nat) : Bool :=
  if low < high then
    let middle := (low + high) / 2
    match r.spans[middle]? with
    | none => false
    | some (first, last) =>
      if c < first then r.within c low middle
      else if last < c then r.within c (middle + 1) high
      else true
  else false
  termination_by high - low
  decreasing_by all_goals omega

/-- Membership of a code point. -/
def Ranges.contains (r : Ranges) (c : Nat) : Bool := r.within c 0 r.spans.size

/-- Code points `first`, `first + step`, … up to `last` that all move by `shift`. -/
structure Run where
  first : Nat
  last : Nat
  step : Nat
  shift : Int

/-- A map on code points that moves those of its runs and keeps all others. -/
structure Shifts where
  runs : Array Run

/-- Whether a run moves a code point. -/
def Run.covers (run : Run) (c : Nat) : Bool :=
  run.first ≤ c && c ≤ run.last && (c - run.first) % run.step == 0

/-- The first run numbered from `low` up to `high` that ends at or after `c`, if it moves `c`. -/
def Shifts.within (s : Shifts) (c low high : Nat) : Option Run :=
  if low < high then
    let middle := (low + high) / 2
    match s.runs[middle]? with
    | none => none
    | some run =>
      if c < run.first then s.within c low middle
      else if run.last < c then s.within c (middle + 1) high
      else if run.covers c then some run else none
  else none
  termination_by high - low
  decreasing_by all_goals omega

/-- The image of a code point. -/
def Shifts.apply (s : Shifts) (c : Nat) : Nat :=
  match s.within c 0 s.runs.size with
  | some run => ((c : Int) + run.shift).toNat
  | none => c

/-- The code points, other than `c` itself, that the map sends to `c`. -/
def Shifts.preimage (s : Shifts) (c : Nat) : List Nat :=
  s.runs.toList.filterMap fun run =>
    let source := (c : Int) - run.shift
    if 0 ≤ source && run.covers source.toNat then some source.toNat else none

/-- Whether the map moves some code point of a closed range. -/
def Shifts.movesSome (s : Shifts) (low high : Nat) : Bool :=
  s.runs.any fun run =>
    let next := if low ≤ run.first then run.first
      else run.first + (low - run.first + run.step - 1) / run.step * run.step
    next ≤ high && next ≤ run.last

end Diagnosis.Unicode
