import EventEngine.Number.Binary
import Mathlib

/-! Numbers that a format holds exactly. The bits of a finite number are its sign and its canonical
mantissa and exponent, which are ordered like the values; a quotient that has a canonical form is
rounded to just that. So a single is widened to a double of the same value, and narrowing that gives
the single back bit by bit. -/
namespace EventEngine.Number

theorem roundQuotient_of_whole {den : Nat} (positive : 0 < den) (whole : Nat) :
    roundQuotient (whole * den) den = whole := by
  have even : 2 * (whole * den % den) < den := by simpa using positive
  simp only [roundQuotient, if_pos even, Nat.mul_div_left _ positive]

/-! ### Powers of two -/

theorem zpow_eq_div (e : Int) : (2 : ℚ) ^ e = 2 ^ e.toNat / 2 ^ (-e).toNat := by
  rw [eq_div_iff (by positivity), ← zpow_natCast, ← zpow_natCast, ← zpow_add₀ two_ne_zero]
  congr 1
  omega

theorem lt_mul_zpow_iff (num den : Nat) (e : Int) :
    num * twoTo (-e).toNat < den * twoTo e.toNat ↔ (num : ℚ) < den * 2 ^ e := by
  rw [zpow_eq_div, ← mul_div_assoc, lt_div_iff₀ (by positivity)]
  exact_mod_cast Iff.rfl

theorem mul_eq_iff (num den m : Nat) (e : Int) :
    num * twoTo (-e).toNat = m * (den * twoTo e.toNat) ↔ (num : ℚ) = m * 2 ^ e * den := by
  rw [zpow_eq_div, mul_div_assoc', div_mul_eq_mul_div, eq_div_iff (by positivity), mul_right_comm,
    mul_assoc (m : ℚ)]
  exact_mod_cast Iff.rfl

namespace Format

variable {f : Format} {m : Nat} {e : Int}

/-! ### Canonical forms -/

/-- A mantissa and an exponent as the bits of a format hold them: the exponent is as small as the
mantissa allows. -/
structure Canonical (f : Format) (m : Nat) (e : Int) : Prop where
  least : f.leastExponent ≤ e
  few : m < 2 * twoTo f.fractionBits
  full : e = f.leastExponent ∨ twoTo f.fractionBits ≤ m

/-- The bits of a canonical form behind the sign. -/
def magnitude (f : Format) (m : Nat) (e : Int) : Nat :=
  (e - f.leastExponent).toNat * twoTo f.fractionBits + m

theorem magnitude_add (f : Format) (m k : Nat) :
    f.magnitude m (f.leastExponent + k) = k * twoTo f.fractionBits + m := by
  rw [magnitude, add_sub_cancel_left, Int.toNat_natCast]

/-- The bits of a finite number are its sign and its canonical form. -/
theorem decode_eq_finite_iff {bits : Nat} {negative : Bool} :
    f.decode bits = .finite negative m e ↔
      f.Canonical m e ∧ f.magnitude m e < f.infinity ∧ bits.testBit f.signBit = negative ∧
        bits % twoTo f.signBit = f.magnitude m e := by
  have unit : 0 < twoTo f.fractionBits := Nat.two_pow_pos _
  simp only [decode]
  generalize bits % twoTo f.signBit = code
  constructor
  · intro decoded
    have parts := Nat.div_add_mod code (twoTo f.fractionBits)
    have fraction := Nat.mod_lt code unit
    split at decoded
    · cases decoded
    · rename_i different
      split at decoded
      · cases decoded
      · rename_i notAbove
        have below : code < f.infinity := by omega
        split at decoded
        · -- small numbers have the least exponent
          rename_i small
          cases decoded
          rw [small, Nat.mul_zero, Nat.zero_add] at parts
          have same : f.magnitude (code % twoTo f.fractionBits) f.leastExponent = code := by
            simpa only [Nat.zero_mul, Nat.zero_add, parts, Nat.cast_zero, add_zero] using
              f.magnitude_add (code % twoTo f.fractionBits) 0
          exact ⟨⟨le_refl _, by omega, .inl rfl⟩, by omega, rfl, same.symm⟩
        · rename_i large
          obtain ⟨k, field⟩ := Nat.exists_eq_add_one_of_ne_zero large
          cases decoded
          rw [field, Nat.mul_succ, Nat.mul_comm] at parts
          rw [field, Nat.add_sub_cancel, magnitude_add]
          exact ⟨⟨by omega, by omega, .inr (by omega)⟩, by omega, rfl, by omega⟩
  · rintro ⟨canonical, below, rfl, rfl⟩
    obtain ⟨k, rfl⟩ := Int.le.dest canonical.least
    rw [magnitude_add] at below ⊢
    have few := canonical.few
    rw [if_neg (Nat.ne_of_lt below), if_neg (Nat.not_lt_of_lt below)]
    rcases Nat.lt_or_ge m (twoTo f.fractionBits) with small | full
    · have none : k = 0 := by
        rcases canonical.full with same | full
        · omega
        · omega
      subst none
      rw [Nat.zero_mul, Nat.zero_add, if_pos (Nat.div_eq_of_lt small), Nat.mod_eq_of_lt small,
        Nat.cast_zero, add_zero]
    · obtain ⟨fraction, rfl⟩ := Nat.exists_eq_add_of_le full
      have split : k * twoTo f.fractionBits + (twoTo f.fractionBits + fraction) =
          fraction + twoTo f.fractionBits * (k + 1) := by ring
      rw [split, Nat.add_mul_div_left _ _ unit, Nat.add_mul_mod_self_left,
        Nat.div_eq_of_lt (by omega), Nat.mod_eq_of_lt (by omega), Nat.zero_add,
        if_neg (Nat.succ_ne_zero k), Nat.add_sub_cancel, Nat.add_comm fraction]

theorem lt_of_decode_nan {bits : Nat} (nan : f.decode bits = .nan) :
    f.infinity < bits % twoTo f.signBit := by
  simp only [decode] at nan
  split at nan
  · cases nan
  · split at nan
    · assumption
    · split at nan <;> cases nan

theorem eq_of_decode_infinite {bits : Nat} {negative : Bool}
    (infinite : f.decode bits = .infinite negative) : bits % twoTo f.signBit = f.infinity := by
  simp only [decode] at infinite
  split at infinite
  · assumption
  · split at infinite
    · cases infinite
    · split at infinite <;> cases infinite

/-! ### Rounding -/

theorem zpow_log2_le {n : Nat} (some : n ≠ 0) : (2 : ℚ) ^ (n.log2 : Int) ≤ n := by
  rw [zpow_natCast]
  exact_mod_cast Nat.log2_self_le some

theorem lt_zpow_log2 (n : Nat) : (n : ℚ) < 2 ^ (n.log2 + 1 : Int) := by
  have below : n < 2 ^ (n.log2 + 1) := Nat.lt_log2_self
  exact_mod_cast below

/-- What is rounded is scaled by the greatest power of two that it reaches. -/
theorem nearest_scaled {num den : Nat} (some : num ≠ 0) (positive : den ≠ 0) :
    ∃ scale exponent : Int, (den : ℚ) * 2 ^ scale ≤ num ∧ (num : ℚ) < den * 2 ^ (scale + 1) ∧
      exponent = max f.leastExponent (scale - f.fractionBits) ∧
      f.nearest num den = min f.infinity (f.magnitude
        (roundQuotient (num * twoTo (-exponent).toNat) (den * twoTo exponent.toNat)) exponent) := by
  obtain ⟨top, same⟩ : ∃ top : Int, top = num.log2 - den.log2 := ⟨_, rfl⟩
  have reached : (den : ℚ) * 2 ^ (top - 1) < num := by
    calc (den : ℚ) * 2 ^ (top - 1)
        < 2 ^ (den.log2 + 1 : Int) * 2 ^ (top - 1) :=
          mul_lt_mul_of_pos_right (lt_zpow_log2 den) (by positivity)
      _ = 2 ^ (num.log2 : Int) := by rw [← zpow_add₀ two_ne_zero]; congr 1; omega
      _ ≤ num := zpow_log2_le some
  have missed : (num : ℚ) < den * 2 ^ (top + 1) := by
    calc (num : ℚ) < 2 ^ (num.log2 + 1 : Int) := lt_zpow_log2 num
      _ = 2 ^ (den.log2 : Int) * 2 ^ (top + 1) := by rw [← zpow_add₀ two_ne_zero]; congr 1; omega
      _ ≤ den * 2 ^ (top + 1) := mul_le_mul_of_nonneg_right (zpow_log2_le positive) (by positivity)
  have rounded := show f.nearest num den = _ from if_neg some
  rw [← same] at rounded
  by_cases below : num * twoTo (-top).toNat < den * twoTo top.toNat
  · refine ⟨top - 1, _, reached.le, ?_, rfl, ?_⟩
    · rw [sub_add_cancel]
      exact (lt_mul_zpow_iff num den top).mp below
    · simpa only [decide_eq_true_eq, if_pos below, magnitude] using rounded
  · refine ⟨top, _, ?_, missed, rfl, ?_⟩
    · exact not_lt.mp fun less => below ((lt_mul_zpow_iff num den top).mpr less)
    · simpa only [decide_eq_true_eq, if_neg below, magnitude] using rounded

/-- A quotient that has a canonical form is rounded to just that. -/
theorem nearest_of_exact {num den : Nat} (canonical : f.Canonical m e)
    (finite : f.magnitude m e ≤ f.infinity) (positive : den ≠ 0)
    (exact : (num : ℚ) = m * 2 ^ e * den) : f.nearest num den = f.magnitude m e := by
  have positive' : (0 : ℚ) < den := by exact_mod_cast Nat.pos_of_ne_zero positive
  have power : (0 : ℚ) < 2 ^ e := by positivity
  rcases Nat.eq_zero_or_pos m with rfl | more
  · have none : num = 0 := by simpa using exact
    have least : e = f.leastExponent := by
      rcases canonical.full with least | full
      · exact least
      · exact absurd full (Nat.not_le_of_lt (Nat.two_pow_pos _))
    simp only [nearest, if_pos none, least, magnitude, sub_self, Int.toNat_zero, Nat.zero_mul,
      Nat.add_zero]
  · have some : num ≠ 0 := by
      rintro rfl
      have more' : (0 : ℚ) < m := by exact_mod_cast more
      exact absurd exact (by rw [Nat.cast_zero]; positivity)
    obtain ⟨scale, exponent, reached, missed, chosen, rounded⟩ :=
      nearest_scaled (f := f) some positive
    rw [exact, mul_comm (den : ℚ), mul_le_mul_iff_left₀ positive'] at reached
    rw [exact, mul_comm (den : ℚ), mul_lt_mul_iff_left₀ positive'] at missed
    have same : exponent = e := by
      have few : (m : ℚ) < 2 ^ (f.fractionBits + 1 : Int) := by
        have few : m < 2 ^ (f.fractionBits + 1) := by
          simpa only [twoTo, Nat.pow_eq, Nat.pow_succ'] using canonical.few
        exact_mod_cast few
      have upper : scale < e + (f.fractionBits + 1) := by
        rw [← zpow_lt_zpow_iff_right₀ (one_lt_two : (1 : ℚ) < 2), zpow_add₀ two_ne_zero, mul_comm]
        exact reached.trans_lt (mul_lt_mul_of_pos_right few power)
      rcases canonical.full with least | full
      · have := canonical.least
        omega
      · have full' : (2 : ℚ) ^ (f.fractionBits : Int) ≤ m := by exact_mod_cast full
        have lower : e + f.fractionBits < scale + 1 := by
          rw [← zpow_lt_zpow_iff_right₀ (one_lt_two : (1 : ℚ) < 2), zpow_add₀ two_ne_zero, mul_comm]
          exact (mul_le_mul_of_nonneg_right full' power.le).trans_lt missed
        have := canonical.least
        omega
    rw [rounded, same, (mul_eq_iff num den m e).mpr exact, roundQuotient_of_whole]
    · exact Nat.min_eq_right finite
    · exact Nat.mul_pos (Nat.pos_of_ne_zero positive) (Nat.two_pow_pos _)

theorem nearest_ofScaled {m' : Nat} {e' : Int} (canonical : f.Canonical m e)
    (finite : f.magnitude m e ≤ f.infinity) (same : (m' : ℚ) * 2 ^ e' = m * 2 ^ e) :
    f.nearest (m' * Nat.pow 2 e'.toNat) (Nat.pow 2 (-e').toNat) = f.magnitude m e := by
  apply nearest_of_exact canonical finite (Nat.two_pow_pos _).ne'
  rw [← same, zpow_eq_div, mul_assoc, div_mul_eq_mul_div]
  simp

/-! ### Signs -/

theorem infinity_lt (f : Format) : f.infinity < twoTo f.signBit := by
  have power : twoTo f.signBit = twoTo f.exponentBits * twoTo f.fractionBits := Nat.pow_add ..
  rw [infinity, power]
  have first : 0 < twoTo f.exponentBits := Nat.two_pow_pos _
  exact Nat.mul_lt_mul_of_pos_right (by omega) (Nat.two_pow_pos _)

theorem testBit_withSign {magnitude : Nat} (below : magnitude < twoTo f.signBit)
    (negative : Bool) : (f.withSign negative magnitude).testBit f.signBit = negative := by
  have clear : magnitude.testBit f.signBit = false := Nat.testBit_lt_two_pow below
  cases negative
  · exact clear
  · rw [withSign, if_pos rfl, Nat.add_comm]
    exact (Nat.testBit_two_pow_add_eq ..).trans (by rw [clear]; rfl)

theorem withSign_mod {magnitude : Nat} (below : magnitude < twoTo f.signBit) (negative : Bool) :
    f.withSign negative magnitude % twoTo f.signBit = magnitude := by
  cases negative
  · exact Nat.mod_eq_of_lt below
  · rw [withSign, if_pos rfl, Nat.add_mod_right, Nat.mod_eq_of_lt below]

theorem withSign_lt {magnitude : Nat} (below : magnitude < twoTo f.signBit) (negative : Bool) :
    f.withSign negative magnitude < 2 * twoTo f.signBit := by
  cases negative
  · simp only [withSign, Bool.false_eq_true, if_false]
    omega
  · simp only [withSign, if_true]
    omega

/-- Bits are a sign and a magnitude. -/
theorem withSign_testBit {bits : Nat} (few : bits < 2 * twoTo f.signBit) :
    f.withSign (bits.testBit f.signBit) (bits % twoTo f.signBit) = bits := by
  have parts := Nat.div_add_mod bits (twoTo f.signBit)
  have sign : bits.testBit f.signBit = decide (bits / twoTo f.signBit % 2 = 1) :=
    Nat.testBit_eq_decide_div_mod_eq
  have field : bits / twoTo f.signBit < 2 :=
    Nat.div_lt_of_lt_mul (by rwa [Nat.mul_comm])
  rw [sign, Nat.mod_eq_of_lt field]
  rcases Nat.lt_or_ge bits (twoTo f.signBit) with small | large
  · rw [Nat.div_eq_of_lt small, Nat.mod_eq_of_lt small]
    rfl
  · have one : bits / twoTo f.signBit = 1 := by
      have some := Nat.div_pos large (Nat.two_pow_pos _)
      omega
    rw [one] at parts ⊢
    simp only [withSign, decide_true, if_true]
    omega

theorem decode_withSign (canonical : f.Canonical m e) (below : f.magnitude m e < f.infinity)
    (negative : Bool) :
    f.decode (f.withSign negative (f.magnitude m e)) = .finite negative m e :=
  have small := below.trans f.infinity_lt
  decode_eq_finite_iff.mpr
    ⟨canonical, below, testBit_withSign small negative, withSign_mod small negative⟩

/-- The bits of a finite number, told by its value. -/
theorem eq_withSign_of_decode {bits : Nat} {negative : Bool} (few : bits < 2 * twoTo f.signBit)
    (finite : f.decode bits = .finite negative m e) :
    f.withSign negative (f.magnitude m e) = bits := by
  obtain ⟨-, -, rfl, same⟩ := decode_eq_finite_iff.mp finite
  rw [← same]
  exact withSign_testBit few

/-! ### Order -/

/-- Magnitudes are ordered like the values of their canonical forms. -/
theorem Canonical.lt_of_magnitude_lt {m' : Nat} {e' : Int} (canonical : f.Canonical m e)
    (canonical' : f.Canonical m' e') (less : f.magnitude m' e' < f.magnitude m e) :
    (m' : ℚ) * 2 ^ e' < m * 2 ^ e := by
  obtain ⟨k, rfl⟩ := Int.le.dest canonical.least
  obtain ⟨k', rfl⟩ := Int.le.dest canonical'.least
  rw [magnitude_add, magnitude_add] at less
  have few := canonical.few
  have few' := canonical'.few
  rcases Nat.lt_trichotomy k k' with lower | rfl | higher
  · have full : twoTo f.fractionBits ≤ m' := by
      rcases canonical'.full with same | full
      · omega
      · exact full
    have steps : (k + 1) * twoTo f.fractionBits ≤ k' * twoTo f.fractionBits :=
      Nat.mul_le_mul_right _ lower
    rw [Nat.succ_mul] at steps
    omega
  · have fewer : m' < m := by omega
    have fewer' : (m' : ℚ) < m := by exact_mod_cast fewer
    exact mul_lt_mul_of_pos_right fewer' (by positivity)
  · have full : twoTo f.fractionBits ≤ m := by
      rcases canonical.full with same | full
      · omega
      · exact full
    have bound : (m' : ℚ) < 2 * m := by exact_mod_cast (by omega : m' < 2 * m)
    have power : (2 : ℚ) * 2 ^ (f.leastExponent + k') ≤ 2 ^ (f.leastExponent + k) := by
      rw [← zpow_one_add₀ two_ne_zero]
      exact zpow_le_zpow_right₀ one_le_two (by omega)
    calc (m' : ℚ) * 2 ^ (f.leastExponent + k')
        < 2 * m * 2 ^ (f.leastExponent + k') := mul_lt_mul_of_pos_right bound (by positivity)
      _ = m * (2 * 2 ^ (f.leastExponent + k')) := by ring
      _ ≤ m * 2 ^ (f.leastExponent + k) := mul_le_mul_of_nonneg_left power (by positivity)

theorem Canonical.eq_of_magnitude_eq {m' : Nat} {e' : Int}
    (canonical : f.Canonical m e) (canonical' : f.Canonical m' e')
    (below : f.magnitude m e < f.infinity) (same : f.magnitude m e = f.magnitude m' e') :
    m = m' ∧ e = e' := by
  have first := decode_withSign canonical below false
  have second := decode_withSign canonical' (same ▸ below) false
  rw [same, second] at first
  simpa [eq_comm] using first

theorem Canonical.magnitude_le_iff {m' : Nat} {e' : Int}
    (canonical : f.Canonical m e) (canonical' : f.Canonical m' e')
    (below : f.magnitude m e < f.infinity) :
    f.magnitude m e ≤ f.magnitude m' e' ↔ (m : ℚ) * 2 ^ e ≤ m' * 2 ^ e' := by
  constructor
  · intro ordered
    rcases Nat.lt_or_eq_of_le ordered with less | same
    · exact (canonical'.lt_of_magnitude_lt canonical less).le
    · obtain ⟨rfl, rfl⟩ := canonical.eq_of_magnitude_eq canonical' below same
      exact le_refl _
  · intro ordered
    apply Nat.le_of_not_lt
    intro less
    exact absurd (canonical.lt_of_magnitude_lt canonical' less) (not_lt_of_ge ordered)

end Format

/-! ### Comparisons -/

/-- The number that a sign, a mantissa and an exponent stand for. -/
def signed (negative : Bool) (m : Nat) (e : Int) : ℚ :=
  (if negative then -1 else 1) * (m * 2 ^ e)

theorem zpow_toNat_sub {e least : Int} (above : least ≤ e) :
    (2 : ℚ) ^ (e - least).toNat * 2 ^ least = 2 ^ e := by
  rw [← zpow_natCast, Int.toNat_of_nonneg (by omega), ← zpow_add₀ two_ne_zero, sub_add_cancel]

theorem Value.lt_finite_iff {negative negative' : Bool} {m m' : Nat} {e e' : Int} :
    (Value.finite negative m e).lt (.finite negative' m' e') = true ↔
      signed negative m e < signed negative' m' e' := by
  have left := zpow_toNat_sub (min_le_left e e')
  have right := zpow_toNat_sub (min_le_right e e')
  have power : (0 : ℚ) < 2 ^ min e e' := by positivity
  rw [signed, signed, ← left, ← right, ← mul_assoc, ← mul_assoc, ← mul_assoc, ← mul_assoc,
    mul_lt_mul_iff_left₀ power]
  simp only [lt, decide_eq_true_eq, ← Int.cast_lt (R := ℚ)]
  push_cast
  simp only [mul_assoc, twoTo]
  norm_num

theorem signed_within_iff (negative : Bool) (m : Nat) (e : Int) :
    ¬ signed negative m e < -1 ∧ ¬ 1 < signed negative m e ↔ (m : ℚ) * 2 ^ e ≤ 1 := by
  have some : (0 : ℚ) ≤ m * 2 ^ e := by positivity
  cases negative
  · simp only [signed, Bool.false_eq_true, if_false, one_mul, not_lt]
    exact ⟨And.right, fun least => ⟨by linarith, least⟩⟩
  · simp only [signed, if_true, neg_one_mul, not_lt]
    exact ⟨fun both => neg_le_neg_iff.mp both.1, fun least => ⟨neg_le_neg least, by linarith⟩⟩

/-! ### From singles to doubles and back -/

/-- A double has room for every single. -/
theorem exists_double {m : Nat} {e : Int} (canonical : single.Canonical m e)
    (below : single.magnitude m e < single.infinity) :
    ∃ m' e', double.Canonical m' e' ∧ double.magnitude m' e' < double.infinity ∧
      (m : ℚ) * 2 ^ e = m' * 2 ^ e' := by
  have least : (-149 : Int) ≤ e := canonical.least
  have few : m < 2 ^ 24 := canonical.few
  have small : (e - -149).toNat * 2 ^ 23 + m < 255 * 2 ^ 23 := below
  rcases Nat.eq_zero_or_pos m with rfl | more
  · exact ⟨0, double.leastExponent, ⟨le_refl _, by decide, .inl rfl⟩, by decide, by simp⟩
  · have least_log : m.log2 < 24 := (Nat.log2_lt more.ne').mpr few
    have lower : 2 ^ m.log2 ≤ m := Nat.log2_self_le more.ne'
    have upper : m < 2 ^ (m.log2 + 1) := Nat.lt_log2_self
    obtain ⟨k, room⟩ : ∃ k, m.log2 + k = 52 := ⟨52 - m.log2, by omega⟩
    have full : 2 ^ 52 ≤ m * 2 ^ k := by
      rw [← room, Nat.pow_add]
      exact Nat.mul_le_mul_right _ lower
    have few' : m * 2 ^ k < 2 ^ 53 := by
      rw [← (by omega : m.log2 + 1 + k = 53), Nat.pow_add]
      exact Nat.mul_lt_mul_of_pos_right upper (Nat.two_pow_pos _)
    refine ⟨m * 2 ^ k, e - k, ⟨?_, ?_, .inr full⟩, ?_, ?_⟩
    · show (-1074 : Int) ≤ e - k
      omega
    · exact few'
    · have infinity : double.infinity = 2047 * 2 ^ 52 := by decide
      have code : double.magnitude (m * 2 ^ k) (e - k) =
          (e - k - -1074).toNat * 2 ^ 52 + m * 2 ^ k := rfl
      omega
    · rw [zpow_sub₀ two_ne_zero, Nat.cast_mul, Nat.cast_pow, Nat.cast_ofNat, zpow_natCast]
      field_simp

theorem Single.value_toDouble {x : Single} {negative : Bool} {m : Nat} {e : Int}
    (finite : x.value = .finite negative m e) :
    ∃ m' e', x.toDouble.value = .finite negative m' e' ∧ (m' : ℚ) * 2 ^ e' = m * 2 ^ e := by
  obtain ⟨canonical, below, -⟩ := Format.decode_eq_finite_iff.mp finite
  obtain ⟨m', e', canonical', below', same⟩ := exists_double canonical below
  have small := below'.trans double.infinity_lt
  refine ⟨m', e', ?_, same.symm⟩
  simp only [toDouble, finite, Double.value, Double.ofScaled, Double.ofQuotient,
    Format.nearest_ofScaled canonical' below'.le same]
  rw [UInt64.toNat_ofNat_of_lt' (Format.withSign_lt small negative)]
  exact Format.decode_withSign canonical' below' negative

/-- A single that is no infinity comes back from the double of the same value bit by bit. -/
theorem Single.toSingle_toDouble {x : Single} (finite : x.isFinite) : x.toDouble.toSingle = x := by
  unfold isFinite at finite
  split at finite
  · rename_i negative m e value
    obtain ⟨canonical, below, -⟩ := Format.decode_eq_finite_iff.mp value
    obtain ⟨m', e', value', same⟩ := value_toDouble value
    simp only [Double.toSingle, value', ofScaled, ofQuotient,
      Format.nearest_ofScaled canonical below.le same]
    rw [Format.eq_withSign_of_decode x.bits.toNat_lt value, UInt32.ofNat_toNat]
  · cases finite

end EventEngine.Number
