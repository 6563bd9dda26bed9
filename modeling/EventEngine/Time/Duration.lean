/-! Lengths of time as whole seconds and nanoseconds. The seconds are a 64-bit
word and the nanoseconds stay below one second, so every length has one form.
Sums carry and differences borrow between the two parts; a sum that does not
fit is cut off at the longest length, a negative difference at zero. -/
namespace EventEngine

def nanosPerSec : Nat := 1000000000

structure Duration where
  secs : UInt64
  nanos : Nat
  nanos_lt : nanos < nanosPerSec
  deriving DecidableEq, Repr

namespace Duration

def zero : Duration := ⟨0, 0, by decide⟩

def longest : Duration := ⟨0xffffffffffffffff, 999999999, by decide⟩

instance : Inhabited Duration := ⟨zero⟩

def toNanos (d : Duration) : Nat := d.secs.toNat * nanosPerSec + d.nanos

/-- Nanoseconds beyond a second carry into the seconds; `none` if those overflow. -/
def ofParts? (secs nanos : Nat) : Option Duration :=
  if secs + nanos / nanosPerSec < UInt64.size then
    some ⟨UInt64.ofNat (secs + nanos / nanosPerSec), nanos % nanosPerSec,
      Nat.mod_lt _ (by decide)⟩
  else none

/-- Milliseconds that fit in a word always fit in a length. -/
def ofMillis (millis : UInt64) : Duration :=
  ⟨millis / 1000, (millis % 1000).toNat * 1000000, by
    have h : (millis % 1000).toNat < 1000 := by
      rw [UInt64.toNat_mod]; exact Nat.mod_lt _ (by decide)
    simp only [nanosPerSec]; omega⟩

/-- Whole milliseconds, the rest dropped. -/
def toMillis (d : Duration) : Nat := d.secs.toNat * 1000 + d.nanos / 1000000

def isZero (d : Duration) : Bool := d.secs == 0 && d.nanos == 0

/-- Seconds decide, then nanoseconds. -/
instance : LT Duration where
  lt a b := a.secs < b.secs ∨ a.secs = b.secs ∧ a.nanos < b.nanos

instance : LE Duration where
  le a b := a.secs < b.secs ∨ a.secs = b.secs ∧ a.nanos ≤ b.nanos

instance (a b : Duration) : Decidable (a < b) :=
  inferInstanceAs (Decidable (a.secs < b.secs ∨ a.secs = b.secs ∧ a.nanos < b.nanos))

instance (a b : Duration) : Decidable (a ≤ b) :=
  inferInstanceAs (Decidable (a.secs < b.secs ∨ a.secs = b.secs ∧ a.nanos ≤ b.nanos))

/-- The sum, with a carry out of the nanoseconds; `none` if the seconds overflow. -/
def add? (a b : Duration) : Option Duration := ofParts? (a.secs.toNat + b.secs.toNat) (a.nanos + b.nanos)

def saturatingAdd (a b : Duration) : Duration := (add? a b).getD longest

/-- The difference, with a borrow from the seconds where the nanoseconds need it. -/
def saturatingSub (a b : Duration) : Duration :=
  if b.secs ≤ a.secs then
    if le : b.nanos ≤ a.nanos then
      ⟨a.secs - b.secs, a.nanos - b.nanos, Nat.lt_of_le_of_lt (Nat.sub_le ..) a.nanos_lt⟩
    else if b.secs < a.secs then
      ⟨a.secs - b.secs - 1, a.nanos + nanosPerSec - b.nanos, by
        have := a.nanos_lt; omega⟩
    else zero
  else zero

/-- Digits after the point, padded on the left to `width` and without zeros at the end. -/
def fraction (width value : Nat) : String :=
  let digits := toString value
  let padded := "".pushn '0' (width - digits.length) ++ digits
  let kept := (padded.toList.reverse.dropWhile (· == '0')).reverse
  if kept.isEmpty then "" else "." ++ String.ofList kept

/-- The largest unit with a whole part, then the fraction without trailing zeros. -/
def debug (d : Duration) : String :=
  if d.secs != 0 then s!"{d.secs.toNat}{fraction 9 d.nanos}s"
  else if 1000000 ≤ d.nanos then s!"{d.nanos / 1000000}{fraction 6 (d.nanos % 1000000)}ms"
  else if 1000 ≤ d.nanos then s!"{d.nanos / 1000}{fraction 3 (d.nanos % 1000)}µs"
  else s!"{d.nanos}ns"

end Duration
end EventEngine
