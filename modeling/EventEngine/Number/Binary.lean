/-! Binary interchange formats: the bits of a number, the exact value they stand
for, and the nearest bits to an exact quotient. A finite value is a sign, a whole
mantissa and a power of two. Encoded magnitudes are ordered like the values, so a
mantissa that rounds up to the next power carries into the exponent by plain
addition. -/
namespace EventEngine.Number

abbrev twoTo (exponent : Nat) : Nat := Nat.pow 2 exponent

abbrev tenTo (exponent : Nat) : Nat := Nat.pow 10 exponent

/-- The whole number nearest to a quotient, ties to the even one. -/
def roundQuotient (num den : Nat) : Nat :=
  let whole := num / den
  let rest := 2 * (num % den)
  if rest < den then whole
  else if den < rest then whole + 1
  else whole + whole % 2

/-- The whole number nearest to `digits · base ^ exponent`, ties to the even one. -/
def roundScaled (digits base : Nat) (exponent : Int) : Nat :=
  roundQuotient (digits * Nat.pow base exponent.toNat) (Nat.pow base (-exponent).toNat)

/-- Widths of the two fields behind the sign. -/
structure Format where
  fractionBits : Nat
  exponentBits : Nat
  deriving DecidableEq, Repr

inductive Value
  | finite (negative : Bool) (mantissa : Nat) (exponent : Int)
  | infinite (negative : Bool)
  | nan
  deriving DecidableEq, Repr, Inhabited

namespace Format

/-- The least power of two a mantissa can be scaled by. -/
def leastExponent (f : Format) : Int := 2 - twoTo (f.exponentBits - 1) - f.fractionBits

def infinity (f : Format) : Nat := (twoTo f.exponentBits - 1) * twoTo f.fractionBits

def signBit (f : Format) : Nat := f.exponentBits + f.fractionBits

def decode (f : Format) (bits : Nat) : Value :=
  let negative := bits.testBit f.signBit
  let magnitude := bits % twoTo f.signBit
  let fraction := magnitude % twoTo f.fractionBits
  let field := magnitude / twoTo f.fractionBits
  if magnitude = f.infinity then .infinite negative
  else if f.infinity < magnitude then .nan
  else if field = 0 then .finite negative fraction f.leastExponent
  else .finite negative (fraction + twoTo f.fractionBits) (f.leastExponent + (field - 1 : Nat))

def withSign (f : Format) (negative : Bool) (magnitude : Nat) : Nat :=
  if negative then magnitude + twoTo f.signBit else magnitude

/-- The magnitude bits nearest to a quotient, ties to the even mantissa. What is too
large becomes infinity. -/
def nearest (f : Format) (num den : Nat) : Nat :=
  if num = 0 then 0
  else
    -- the quotient lies in [2^(top-1), 2^(top+1)), so one step settles the scale
    let top : Int := (num.log2 : Int) - den.log2
    let quotientBelow (e : Int) : Bool := num * twoTo (-e).toNat < den * twoTo e.toNat
    let scale := if quotientBelow top then top - 1 else top
    let exponent := max f.leastExponent (scale - f.fractionBits)
    let mantissa := roundQuotient (num * twoTo (-exponent).toNat) (den * twoTo exponent.toNat)
    min f.infinity ((exponent - f.leastExponent).toNat * twoTo f.fractionBits + mantissa)

end Format

/-- Four bytes: 23 bits of fraction, 8 of exponent. -/
def single : Format := ⟨23, 8⟩

/-- Eight bytes: 52 bits of fraction, 11 of exponent. -/
def double : Format := ⟨52, 11⟩

/-- A number in four bytes, held as its bits. -/
structure Single where
  bits : UInt32
  deriving DecidableEq, Repr, Inhabited

/-- A number in eight bytes, held as its bits. -/
structure Double where
  bits : UInt64
  deriving DecidableEq, Repr, Inhabited

def Single.value (x : Single) : Value := single.decode x.bits.toNat

def Double.value (x : Double) : Value := double.decode x.bits.toNat

def Single.isNaN (x : Single) : Bool := x.value == .nan

def Single.isFinite (x : Single) : Bool :=
  match x.value with
  | .finite .. => true
  | _ => false

def Single.zero : Single := ⟨0⟩
def Single.one : Single := ⟨0x3f800000⟩
def Single.minusOne : Single := ⟨0xbf800000⟩
def Single.nan : Single := ⟨0x7fc00000⟩
def Double.nan : Double := ⟨0x7ff8000000000000⟩

def Single.infinity (negative : Bool) : Single :=
  ⟨UInt32.ofNat (single.withSign negative single.infinity)⟩

def Double.infinity (negative : Bool) : Double :=
  ⟨UInt64.ofNat (double.withSign negative double.infinity)⟩

def Single.ofQuotient (negative : Bool) (num den : Nat) : Single :=
  ⟨UInt32.ofNat (single.withSign negative (single.nearest num den))⟩

def Double.ofQuotient (negative : Bool) (num den : Nat) : Double :=
  ⟨UInt64.ofNat (double.withSign negative (double.nearest num den))⟩

/-- The bits nearest to `±digits · base ^ exponent`. -/
def Single.ofScaled (negative : Bool) (digits base : Nat) (exponent : Int) : Single :=
  .ofQuotient negative (digits * Nat.pow base exponent.toNat) (Nat.pow base (-exponent).toNat)

def Double.ofScaled (negative : Bool) (digits base : Nat) (exponent : Int) : Double :=
  .ofQuotient negative (digits * Nat.pow base exponent.toNat) (Nat.pow base (-exponent).toNat)

def Single.ofInt (n : Int) : Single := .ofQuotient (decide (n < 0)) n.natAbs 1

/-- The double nearest to `±digits · 10 ^ power`, unless that is too large. Digits that
stay below every double even after 400 places are not looked at. -/
def Double.ofDecimal? (negative : Bool) (digits : Nat) (power : Int) : Option Double :=
  let bound : Int := digits.log2 + 400
  if digits = 0 ∨ power < -bound then some (.ofQuotient negative 0 1)
  else if bound < power then none
  else
    let x := Double.ofScaled negative digits 10 power
    if x.value matches .infinite _ then none else some x

def Double.ofInt (n : Int) : Double := .ofQuotient (decide (n < 0)) n.natAbs 1

/-- The nearest single to a double, ties to the even mantissa. -/
def Double.toSingle (x : Double) : Single :=
  match x.value with
  | .finite negative mantissa exponent => .ofScaled negative mantissa 2 exponent
  | .infinite negative => .infinity negative
  | .nan => .nan

/-- The double of the same value; every single has one. -/
def Single.toDouble (x : Single) : Double :=
  match x.value with
  | .finite negative mantissa exponent => .ofScaled negative mantissa 2 exponent
  | .infinite negative => .infinity negative
  | .nan => .nan

/-- Whether the value lies below another, both being numbers. -/
def Value.lt : Value → Value → Bool
  | .nan, _ | _, .nan => false
  | .infinite negative, .infinite negative' => negative && !negative'
  | .infinite negative, .finite .. => negative
  | .finite .., .infinite negative => !negative
  | .finite negative mantissa exponent, .finite negative' mantissa' exponent' =>
    let least := min exponent exponent'
    let left := (if negative then -1 else 1) * (mantissa * twoTo (exponent - least).toNat : Int)
    let right := (if negative' then -1 else 1) * (mantissa' * twoTo (exponent' - least).toNat : Int)
    left < right

/-- The nearest value between −1 and 1; what is no number stays as it is. -/
def Single.clampUnit (x : Single) : Single :=
  if x.value.lt Single.minusOne.value then .minusOne
  else if Single.one.value.lt x.value then .one
  else x

end EventEngine.Number
