import EventEngine.Number.Binary

/-! The fewest decimal digits that read back as a given binary number. The numbers
that round to it form an interval around it; of each decimal grid, coarsest first,
only the two neighbours of the value can lie in that interval when any point does.
Of two hits the nearer wins. -/
namespace EventEngine.Number

/-- Which neighbour is written when both are equally near. -/
inductive Tie
  | up
  | even
  deriving DecidableEq, Repr

/-- A positive decimal: `digits · 10 ^ exponent`. -/
structure Decimal where
  digits : Nat
  exponent : Int
  deriving DecidableEq, Repr, Inhabited

namespace Decimal

/-- Zeros at the end move into the exponent. -/
def trimmed : Nat → Decimal → Decimal
  | 0, d => d
  | fuel + 1, d =>
    if d.digits ≠ 0 ∧ d.digits % 10 = 0 then trimmed fuel ⟨d.digits / 10, d.exponent + 1⟩ else d

/-- The exact rationals that round to a finite value, as numerators over `den`. -/
structure Interval where
  low : Nat
  middle : Nat
  high : Nat
  den : Nat
  closed : Bool

/-- The neighbourhood of a positive value. Below a power of two the next value is
half as far away. -/
def Interval.around (f : Format) (mantissa : Nat) (exponent : Int) : Interval :=
  let below := if mantissa = twoTo f.fractionBits ∧ exponent ≠ f.leastExponent then 1 else 2
  let scale := twoTo exponent.toNat
  { low := (4 * mantissa - below) * scale
    middle := 4 * mantissa * scale
    high := (4 * mantissa + 2) * scale
    den := 4 * twoTo (-exponent).toNat
    closed := mantissa % 2 = 0 }

/-- Whether `digits · 10 ^ exponent` lies in the interval. -/
def Interval.contains (i : Interval) (digits : Nat) (exponent : Int) : Bool :=
  let point := digits * tenTo exponent.toNat * i.den
  let unit := tenTo (-exponent).toNat
  if i.closed then i.low * unit ≤ point && point ≤ i.high * unit
  else i.low * unit < point && point < i.high * unit

/-- The nearest hit among the two neighbours of the value on one decimal grid. -/
def Interval.onGrid (i : Interval) (tie : Tie) (exponent : Int) : Option Decimal :=
  let num := i.middle * tenTo (-exponent).toNat
  let den := i.den * tenTo exponent.toNat
  let down := num / den
  let rest := 2 * (num % den)
  let downHits := down ≠ 0 && i.contains down exponent
  let upHits := i.contains (down + 1) exponent
  let preferUp := den < rest || rest == den && (tie == .up || down % 2 == 1)
  if downHits && upHits then some ⟨if preferUp then down + 1 else down, exponent⟩
  else if downHits then some ⟨down, exponent⟩
  else if upHits then some ⟨down + 1, exponent⟩
  else none

/-- Finer and finer grids until one has a hit. -/
def Interval.search (i : Interval) (tie : Tie) : Nat → Int → Option Decimal
  | 0, _ => none
  | fuel + 1, exponent => (i.onGrid tie exponent).orElse fun _ => i.search tie fuel (exponent - 1)

/-- The least power of ten above a positive quotient; the guess from the binary
logarithms is at most one step off. -/
def magnitude (num den : Nat) : Int :=
  let guess : Int := ((num.log2 : Int) - den.log2) * 30103 / 100000
  let reached (e : Int) : Bool := den * tenTo e.toNat ≤ num * tenTo (-e).toNat
  if reached (guess + 1) then guess + 2
  else if reached guess then guess + 1
  else guess

def shortest (f : Format) (tie : Tie) (mantissa : Nat) (exponent : Int) : Decimal :=
  let i := Interval.around f mantissa exponent
  match i.search tie 20 (magnitude i.middle i.den - 1) with
  | some d => d.trimmed 20
  | none => ⟨mantissa, exponent⟩

end Decimal

/-- How the text of a number is laid out: with a point while the first digit stands
above `pointAbove` and at most at `pointUpTo` places before it, else with an
exponent. -/
structure Layout where
  tie : Tie
  pointAbove : Int
  pointUpTo : Int
  /-- A positive exponent is written with its sign. -/
  plusExponent : Bool
  deriving DecidableEq, Repr

namespace Layout

def exponentMark (layout : Layout) (exponent : Int) : String :=
  if layout.plusExponent ∧ 0 < exponent then s!"e+{exponent}" else s!"e{exponent}"

/-- Digits with a point after `place` of them, or with an exponent. -/
def decimal (layout : Layout) (d : Decimal) : String :=
  let digits := toString d.digits
  let place := d.exponent + digits.length
  if layout.pointAbove < place ∧ place ≤ layout.pointUpTo then
    if place ≤ 0 then "0." ++ "".pushn '0' (-place).toNat ++ digits
    else if 0 ≤ d.exponent then digits.pushn '0' d.exponent.toNat ++ ".0"
    else String.ofList (digits.toList.take place.toNat) ++ "." ++
      String.ofList (digits.toList.drop place.toNat)
  else
    let tail := String.ofList (digits.toList.drop 1)
    String.ofList (digits.toList.take 1) ++ (if tail.isEmpty then "" else "." ++ tail) ++
      layout.exponentMark (place - 1)

def text (layout : Layout) (f : Format) : Value → String
  | .nan => "NaN"
  | .infinite negative => if negative then "-inf" else "inf"
  | .finite negative mantissa exponent =>
    (if negative then "-" else "") ++
      if mantissa = 0 then "0.0"
      else layout.decimal (Decimal.shortest f layout.tie mantissa exponent)

end Layout

/-- Structural text: a point from 0.0001 up to below 10^16. -/
def debugLayout : Layout := ⟨.up, -4, 16, false⟩

/-- Numbers in documents: a point from 0.00001 up to below 10^16, a tie to the even digit,
exponents with their sign. -/
def documentLayout : Layout := ⟨.even, -5, 16, true⟩

def Single.debug (x : Single) : String := debugLayout.text single x.value

def Double.documentText (x : Double) : String := documentLayout.text double x.value

end EventEngine.Number
