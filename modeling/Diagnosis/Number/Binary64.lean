import Diagnosis.Text.Digits

/-!
# Binary floating-point numbers as decimal text

The 64-bit binary numbers: the one nearest to a decimal, and the fewest decimal
digits that lead back to a number. All arithmetic is on whole numbers.
-/

namespace Diagnosis.Number

/-- A 64-bit binary floating-point number, by its bits. -/
structure Binary64 where
  bits : UInt64
  deriving DecidableEq, Repr, Inhabited

namespace Binary64

/-- The bits below the sign. -/
def magnitude (x : Binary64) : Nat := x.bits.toNat % Nat.pow 2 63

/-- Whether the sign bit is set. -/
def isNegative (x : Binary64) : Bool := Nat.pow 2 63 ≤ x.bits.toNat

/-- The magnitude of infinity; above it there are no numbers. -/
def infiniteMagnitude : Nat := 2047 * Nat.pow 2 52

/-- The number with a sign and a magnitude. -/
def ofMagnitude (negative : Bool) (n : Nat) : Binary64 :=
  ⟨UInt64.ofNat (if negative then Nat.pow 2 63 + n else n)⟩

/-- Infinity with a sign. -/
def infinity (negative : Bool) : Binary64 := ofMagnitude negative infiniteMagnitude

/-- The value that is no number. -/
def notANumber : Binary64 := ofMagnitude false (infiniteMagnitude + Nat.pow 2 51)

/-- The whole number nearest to a quotient; of two, the even one. -/
def nearest (numerator denominator : Nat) : Nat :=
  let q := numerator / denominator
  let twice := 2 * (numerator % denominator)
  if twice < denominator ∨ (twice = denominator ∧ q % 2 = 0) then q else q + 1

/-- The magnitude nearest to a positive quotient. -/
def magnitudeOf (numerator denominator : Nat) : Nat :=
  let guess : Int := (numerator.log2 : Int) - denominator.log2 - 52
  let scaled (k : Int) : Nat × Nat :=
    if 0 ≤ k then (numerator, denominator * Nat.pow 2 k.toNat) else (numerator * Nat.pow 2 (-k).toNat, denominator)
  let small (k : Int) : Bool := let (n, d) := scaled k; n / d < Nat.pow 2 52
  let k := max (-1074) (if small guess then guess - 1 else guess)
  let (n, d) := scaled k
  let q := nearest n d
  min infiniteMagnitude (if q < Nat.pow 2 52 then q else ((k + 1074).toNat) * Nat.pow 2 52 + q)

/-- The number nearest to `digits · 10 ^ exponent`. -/
def ofDecimal (negative : Bool) (digits : Nat) (exponent : Int) : Binary64 :=
  let size : Int := (Nat.toDigits 10 digits).length + exponent
  if digits = 0 ∨ size < -400 then ofMagnitude negative 0
  else if 400 < size then infinity negative
  else if 0 ≤ exponent then ofMagnitude negative (magnitudeOf (digits * Nat.pow 10 exponent.toNat) 1)
  else ofMagnitude negative (magnitudeOf digits (Nat.pow 10 (-exponent).toNat))

/-- The positive number of a magnitude as `significand · 2 ^ exponent`. -/
def parts (n : Nat) : Nat × Int :=
  if n < Nat.pow 2 52 then (n, -1074) else (Nat.pow 2 52 + n % Nat.pow 2 52, (n / Nat.pow 2 52 : Nat) - (1075 : Int))

/-- The reals that round to a positive number: numerators of the lower end, the number and the
upper end over one denominator, and whether the ends belong to them. -/
structure Interval where
  lower : Nat
  value : Nat
  upper : Nat
  denominator : Nat
  closed : Bool

/-- The reals that round to the number of a magnitude. -/
def interval (n : Nat) : Interval :=
  let (m, e) := parts n
  let below := if m = Nat.pow 2 52 ∧ -1074 < e then 1 else 2
  let shift := (e - 2).toNat
  ⟨(4 * m - below) * Nat.pow 2 shift, 4 * m * Nat.pow 2 shift, (4 * m + 2) * Nat.pow 2 shift, Nat.pow 2 (2 - e).toNat, m % 2 = 0⟩

/-- Whether the real `n / d` rounds to the number. -/
def Interval.holds (i : Interval) (n d : Nat) : Bool :=
  if i.closed then i.lower * d ≤ n * i.denominator ∧ n * i.denominator ≤ i.upper * d
  else i.lower * d < n * i.denominator ∧ n * i.denominator < i.upper * d

/-- The neighbour of the number on the grid of tens to the power `p` that rounds to it, the
nearer one if both do. -/
def Interval.onGrid? (i : Interval) (p : Int) : Option Nat :=
  let places := Nat.pow 10 (-p).toNat
  let unit := Nat.pow 10 p.toNat
  let a := i.value * places / (i.denominator * unit)
  let ok (b : Nat) : Bool := i.holds (b * unit) places
  if ok a && ok (a + 1) then
    let down := i.value * places - a * unit * i.denominator
    let up := (a + 1) * unit * i.denominator - i.value * places
    if down < up ∨ (down = up ∧ a % 2 = 0) then some a else some (a + 1)
  else if ok a then some a
  else if ok (a + 1) then some (a + 1)
  else none

/-- The number of decimal digits of the whole part of a quotient, or less one for each zero that
follows the point of a quotient below one tenth. -/
def decimalSize (numerator denominator : Nat) : Int :=
  if denominator ≤ numerator then (Nat.toDigits 10 (numerator / denominator)).length
  else
    let inverse := (denominator - 1) / numerator
    1 - ((Nat.toDigits 10 inverse).length : Int)

/-- The first of the grids with one digit more each on which a neighbour rounds to the number. -/
def Interval.shortestFrom (i : Interval) (p : Int) : Nat → Nat × Int
  | 0 => (i.value / i.denominator, 0)
  | fuel + 1 =>
    match i.onGrid? p with
    | some digits => (digits, p)
    | none => i.shortestFrom (p - 1) fuel

/-- The fewest digits, and the power of ten they count, that lead back to a magnitude. -/
def shortest (n : Nat) : Nat × Int :=
  let i := interval n
  i.shortestFrom (decimalSize i.value i.denominator - 1) 20

/-- Digits without the zeros at their end. -/
def dropZeros (ds : List Char) : List Char := (ds.reverse.dropWhile (· == '0')).reverse

/-- Decimal text of a finite magnitude: positional from one ten-thousandth up to below ten to
the sixteenth, always with a point; otherwise with a signed exponent of at least two digits. -/
def finiteText (n : Nat) : List Char :=
  if n = 0 then "0.0".toList else
  let (m, p) := shortest n
  let all := Nat.toDigits 10 m
  let ds := dropZeros all
  let point : Int := all.length + p
  if -4 < point ∧ point ≤ 16 then
    if point ≤ 0 then "0.".toList ++ List.replicate (-point).toNat '0' ++ ds
    else
      let whole := ds.take point.toNat
      let fraction := ds.drop point.toNat
      whole ++ List.replicate (point.toNat - ds.length) '0' ++
        '.' :: (if fraction.isEmpty then ['0'] else fraction)
  else
    let e := point - 1
    let size := Nat.toDigits 10 e.natAbs
    ds.take 1 ++ (if ds.length ≤ 1 then [] else '.' :: ds.drop 1) ++
      'e' :: (if e < 0 then '-' else '+') :: (if size.length < 2 then '0' :: size else size)

/-- Decimal text of a number, given the words for infinity and for no number. -/
def text (x : Binary64) (infinite undefined : String) : String :=
  let sign := if x.isNegative then "-" else ""
  if x.magnitude < infiniteMagnitude then sign ++ String.ofList (finiteText x.magnitude)
  else if x.magnitude = infiniteMagnitude then sign ++ infinite
  else undefined

end Binary64

end Diagnosis.Number
