import EventEngine.Time.Timestamp
import Mathlib

/-! Points in time from numbers of seconds. Every number of seconds below 2⁶⁴ is one, and what is
negative or no number counts as the origin; from 2⁶⁴ seconds on, infinity included, there is none. -/
namespace EventEngine

namespace Number

/-- Whether a value is a number and no less than a whole one. -/
def Value.AtLeast (n : Nat) : Value → Prop
  | finite false mantissa exponent =>
    n * 2 ^ (-exponent).toNat ≤ mantissa * 2 ^ exponent.toNat
  | finite true mantissa _ => n = 0 ∧ mantissa = 0
  | infinite negative => negative = false
  | nan => False

theorem roundQuotient_one (num : Nat) : roundQuotient num 1 = num := by
  simp [roundQuotient, Nat.mod_one]

/-- Rounding adds less than one. -/
theorem roundQuotient_le (num den : Nat) : roundQuotient num den ≤ num / den + 1 := by
  simp only [roundQuotient]
  split
  · exact Nat.le_succ _
  · split
    · exact Nat.le_refl _
    · omega

/-- A mantissa has at most one bit more than a fraction. -/
theorem Format.decode_mantissa_lt {f : Format} {bits mantissa : Nat} {negative : Bool}
    {exponent : Int} (decoded : f.decode bits = .finite negative mantissa exponent) :
    mantissa < 2 * twoTo f.fractionBits := by
  have fraction : bits % twoTo f.signBit % twoTo f.fractionBits < twoTo f.fractionBits :=
    Nat.mod_lt _ (Nat.two_pow_pos _)
  simp only [decode] at decoded
  split at decoded
  · cases decoded
  · split at decoded
    · cases decoded
    · split at decoded <;> cases decoded <;> omega

end Number

open Number

namespace Timestamp

variable {mantissa : Nat} {exponent : Int}

/-- A number with bits behind the point is too small to be too large. -/
theorem seconds_lt_of_fraction (few : mantissa < 2 ^ 53) (behind : exponent < 0) :
    roundScaled (mantissa * nanosPerSec) 2 exponent / nanosPerSec < UInt64.size := by
  have none : exponent.toNat = 0 := Int.toNat_eq_zero.mpr (Int.le_of_lt behind)
  have rounded := roundQuotient_le (mantissa * nanosPerSec) (2 ^ (-exponent).toNat)
  have fewer : mantissa * nanosPerSec / 2 ^ (-exponent).toNat ≤ mantissa * nanosPerSec :=
    Nat.div_le_self ..
  have limit : 2 ^ 53 < UInt64.size := by decide
  simp only [roundScaled, none, Nat.pow_eq, Nat.pow_zero, Nat.mul_one, nanosPerSec] at *
  omega

/-- A whole number of seconds stays as it is. -/
theorem seconds_of_whole (whole : 0 ≤ exponent) :
    roundScaled (mantissa * nanosPerSec) 2 exponent / nanosPerSec =
      mantissa * 2 ^ exponent.toNat := by
  have none : (-exponent).toNat = 0 := Int.toNat_eq_zero.mpr (Int.neg_nonpos_of_nonneg whole)
  simp only [roundScaled, none, Nat.pow_eq, Nat.pow_zero, roundQuotient_one]
  rw [Nat.mul_right_comm]
  exact Nat.mul_div_left _ (by decide)

theorem ofNanos_eq_error_iff {nanos : Nat} :
    ofNanos nanos = .error .tooLarge ↔ UInt64.size ≤ nanos / nanosPerSec := by
  rcases Nat.lt_or_ge (nanos / nanosPerSec) UInt64.size with fits | large
  · obtain ⟨d, length⟩ : ∃ d, Duration.ofParts? 0 nanos = some d :=
      ⟨_, if_pos (by rwa [Nat.zero_add])⟩
    rw [ofNanos, length]
    exact ⟨nofun, fun large => absurd fits (Nat.not_lt_of_le large)⟩
  · have none : Duration.ofParts? 0 nanos = none :=
      if_neg (by rw [Nat.zero_add]; exact Nat.not_lt_of_le large)
    rw [ofNanos, none]
    exact ⟨fun _ => large, fun _ => rfl⟩

/-- The seconds of a number are too many exactly if the number is. -/
theorem seconds_size_le_iff (few : mantissa < 2 ^ 53) :
    UInt64.size ≤ roundScaled (mantissa * nanosPerSec) 2 exponent / nanosPerSec ↔
      (Value.finite false mantissa exponent).AtLeast UInt64.size := by
  rw [Value.AtLeast]
  rcases Int.lt_or_le exponent 0 with behind | whole
  · have none : exponent.toNat = 0 := Int.toNat_eq_zero.mpr (Int.le_of_lt behind)
    have small := seconds_lt_of_fraction few behind
    have limit : 2 ^ 53 < UInt64.size := by decide
    have scaled : UInt64.size ≤ UInt64.size * 2 ^ (-exponent).toNat :=
      Nat.le_mul_of_pos_right _ (Nat.two_pow_pos _)
    rw [none, Nat.pow_zero, Nat.mul_one]
    omega
  · have none : (-exponent).toNat = 0 := Int.toNat_eq_zero.mpr (Int.neg_nonpos_of_nonneg whole)
    rw [seconds_of_whole whole, none, Nat.pow_zero, Nat.mul_one]

/-- A number of seconds is no point in time exactly if it is 2⁶⁴ or more. -/
theorem ofSeconds_eq_error_iff {seconds : Double} :
    ofSeconds seconds = .error .tooLarge ↔ seconds.value.AtLeast UInt64.size := by
  unfold ofSeconds
  cases value : seconds.value with
  | nan => exact ⟨nofun, False.elim⟩
  | infinite negative => cases negative <;> simp [Value.AtLeast]
  | finite negative mantissa exponent =>
    cases negative with
    | true => exact ⟨nofun, fun atLeast => absurd atLeast.1 (by decide)⟩
    | false =>
      have few : mantissa < 2 ^ 53 :=
        Nat.lt_of_lt_of_le (Format.decode_mantissa_lt value) (by decide)
      exact ofNanos_eq_error_iff.trans (seconds_size_le_iff few)

theorem exists_ofSeconds_iff {seconds : Double} :
    (∃ t, ofSeconds seconds = .ok t) ↔ ¬ seconds.value.AtLeast UInt64.size := by
  rw [← ofSeconds_eq_error_iff]
  generalize ofSeconds seconds = answer
  cases answer with
  | ok t => exact ⟨fun _ => nofun, fun _ => ⟨t, rfl⟩⟩
  | error e =>
    cases e
    exact ⟨nofun, fun right => absurd rfl right⟩

end Timestamp
end EventEngine
