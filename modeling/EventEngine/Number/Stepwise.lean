import EventEngine.Number.Binary

/-! Decimal numbers read in steps. The first digits that fit a word are the significand,
which is rounded to a double and then scaled by powers of ten that are doubles
themselves; each step rounds. Up to fifteen digits and a scale up to ten to the 22nd
this is the nearest double, otherwise it may be a neighbour of it. -/
namespace EventEngine.Number

structure Significand where
  digits : Nat
  exponent : Int
  deriving DecidableEq, Repr

namespace Significand

def fits (digits : Nat) : Bool := digits < twoTo 64

/-- Digits before the point, as many as fit; for the others the scale is raised. -/
def appendWhole (s : Significand) : List Nat → Significand
  | [] => s
  | d :: ds =>
    if fits (s.digits * 10 + d) then appendWhole { s with digits := s.digits * 10 + d } ds
    else { s with exponent := s.exponent + (ds.length + 1 : Nat) }

/-- Digits behind the point, as many as fit; the others do not count. -/
def appendFraction (s : Significand) : List Nat → Significand
  | [] => s
  | d :: ds =>
    if fits (s.digits * 10 + d) then
      appendFraction ⟨s.digits * 10 + d, s.exponent - 1⟩ ds
    else s

end Significand

namespace Double

def timesMagnitude (x y : Double) : Double :=
  match x.value, y.value with
  | .finite _ m e, .finite _ n k => .ofScaled false (m * n) 2 (e + k)
  | _, _ => .infinity false

def overMagnitude (x y : Double) : Double :=
  match x.value, y.value with
  | .finite _ m e, .finite _ n k =>
    .ofQuotient false (m * twoTo (e - k).toNat) (n * twoTo (k - e).toNat)
  | _, _ => .infinity false

def greatestPower : Nat := 308

def powerOfTen (exponent : Nat) : Double := .ofQuotient false (tenTo exponent) 1

/-- Scales by a power of ten; what gets too large is no number. A scale below all powers
of ten is applied in parts, until nothing is left of the number. -/
def scaleByTen? : Nat → Double → Int → Option Double
  | 0, x, _ => some x
  | steps + 1, x, exponent =>
    if exponent.natAbs ≤ greatestPower then
      if 0 ≤ exponent then
        let y := x.timesMagnitude (powerOfTen exponent.natAbs)
        if y.value matches .infinite _ then none else some y
      else some (x.overMagnitude (powerOfTen exponent.natAbs))
    else if x.value matches .finite _ 0 _ then some x
    else if 0 ≤ exponent then none
    else scaleByTen? steps (x.overMagnitude (powerOfTen greatestPower)) (exponent + greatestPower)

/-- The number of a significand; after four parts of the scale nothing is left of a word. -/
def ofSignificand? (negative : Bool) (s : Significand) : Option Double := do
  let x ← scaleByTen? 4 (.ofQuotient false s.digits 1) s.exponent
  some (if negative then ⟨x.bits ||| 0x8000000000000000⟩ else x)

end Double
end EventEngine.Number
