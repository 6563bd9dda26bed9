import EventEngine.Time.Clock

/-! Time as a number of nanoseconds, and readings of a clock. Lengths of time are compared, added
and subtracted as their nanoseconds are, between zero and the longest length; a clock that does not
go back reaches a point of time once and for all. -/
namespace EventEngine

namespace Duration

theorem lt_iff {a b : Duration} : a < b ↔ a.toNanos < b.toNanos := by
  have first := a.nanos_lt
  have second := b.nanos_lt
  change (a.secs < b.secs ∨ a.secs = b.secs ∧ a.nanos < b.nanos) ↔ _
  simp only [toNanos, UInt64.lt_iff_toNat_lt, ← UInt64.toNat_inj, nanosPerSec] at *
  omega

theorem le_iff {a b : Duration} : a ≤ b ↔ a.toNanos ≤ b.toNanos := by
  have first := a.nanos_lt
  have second := b.nanos_lt
  change (a.secs < b.secs ∨ a.secs = b.secs ∧ a.nanos ≤ b.nanos) ↔ _
  simp only [toNanos, UInt64.lt_iff_toNat_lt, ← UInt64.toNat_inj, nanosPerSec] at *
  omega

theorem eq_iff {a b : Duration} : a = b ↔ a.toNanos = b.toNanos := by
  obtain ⟨secs, nanos, nanos_lt⟩ := a
  obtain ⟨secs', nanos', nanos_lt'⟩ := b
  have first : nanos < 1000000000 := nanos_lt
  have second : nanos' < 1000000000 := nanos_lt'
  simp only [mk.injEq, toNanos, ← UInt64.toNat_inj, nanosPerSec]
  omega

theorem toNanos_le_longest (a : Duration) : a.toNanos ≤ Duration.longest.toNanos := by
  have secs := a.secs.toNat_lt
  have nanos := a.nanos_lt
  simp only [toNanos, longest, nanosPerSec] at *
  have : (0xffffffffffffffff : UInt64).toNat = 18446744073709551615 := rfl
  omega

/-- A sum is taken in nanoseconds, and is the longest length where it would be longer. -/
theorem toNanos_saturatingAdd (a b : Duration) :
    (a.saturatingAdd b).toNanos = min (a.toNanos + b.toNanos) Duration.longest.toNanos := by
  have last : Duration.longest.toNanos = 18446744073709551615 * nanosPerSec + 999999999 := rfl
  rw [saturatingAdd, add?, ofParts?]
  split
  case isTrue fits =>
    have kept : (UInt64.ofNat (a.secs.toNat + b.secs.toNat + (a.nanos + b.nanos) / nanosPerSec)).toNat =
        a.secs.toNat + b.secs.toNat + (a.nanos + b.nanos) / nanosPerSec :=
      UInt64.toNat_ofNat_of_lt fits
    rw [Option.getD_some, last, toNanos, toNanos, toNanos, kept]
    simp only [nanosPerSec, UInt64.size] at *
    omega
  case isFalse exceeds =>
    rw [Option.getD_none, last, toNanos, toNanos]
    simp only [nanosPerSec, UInt64.size] at *
    omega

theorem le_saturatingAdd (a b : Duration) : a ≤ a.saturatingAdd b := by
  rw [le_iff, toNanos_saturatingAdd]
  exact Nat.le_min.mpr ⟨Nat.le_add_right .., a.toNanos_le_longest⟩

/-- A difference is taken in nanoseconds, and is zero where it would be negative. -/
theorem toNanos_saturatingSub (a b : Duration) :
    (a.saturatingSub b).toNanos = a.toNanos - b.toNanos := by
  have first : a.nanos < 1000000000 := a.nanos_lt
  have second : b.nanos < 1000000000 := b.nanos_lt
  have zero : Duration.zero.toNanos = 0 := by decide
  simp only [saturatingSub, UInt64.le_iff_toNat_le, UInt64.lt_iff_toNat_lt]
  split
  case isTrue fits =>
    have whole : (a.secs - b.secs).toNat = a.secs.toNat - b.secs.toNat :=
      UInt64.toNat_sub_of_le _ _ fits
    split
    case isTrue =>
      simp only [toNanos, nanosPerSec, whole]
      omega
    case isFalse =>
      split
      case isTrue borrows =>
        have borrowed : (a.secs - b.secs - 1).toNat = a.secs.toNat - b.secs.toNat - 1 := by
          rw [UInt64.toNat_sub_of_le, whole]
          · rfl
          · rw [UInt64.le_iff_toNat_le, whole, UInt64.toNat_one]
            omega
        simp only [toNanos, nanosPerSec, borrowed]
        omega
      case isFalse =>
        rw [zero, toNanos, toNanos, nanosPerSec]
        omega
  case isFalse =>
    rw [zero, toNanos, toNanos, nanosPerSec]
    omega

end Duration

namespace Timestamp

theorem le_refl (t : Timestamp) : t ≤ t := Duration.le_iff.mpr (Nat.le_refl _)

theorem le_trans {a b c : Timestamp} (first : a ≤ b) (second : b ≤ c) : a ≤ c :=
  Duration.le_iff.mpr (Nat.le_trans (Duration.le_iff.mp first) (Duration.le_iff.mp second))

theorem le_of_lt {a b : Timestamp} (before : a < b) : a ≤ b :=
  Duration.le_iff.mpr (Nat.le_of_lt (Duration.lt_iff.mp before))

theorem le_after (t : Timestamp) (step : Duration) : t ≤ t.after step :=
  Duration.le_saturatingAdd ..

/-- Since an earlier point exactly the time has passed that lies between the two. -/
theorem toNanos_since {earlier t : Timestamp} (ordered : earlier ≤ t) :
    earlier.sinceOrigin.toNanos + (t.since earlier).toNanos = t.sinceOrigin.toNanos := by
  rw [since, Duration.toNanos_saturatingSub]
  exact Nat.add_sub_cancel' (Duration.le_iff.mp ordered)

theorem isDue_iff {due reading : Timestamp} :
    due.isDue reading = true ↔ due.sinceOrigin.toNanos ≤ reading.sinceOrigin.toNanos :=
  decide_eq_true_iff.trans Duration.le_iff

theorem isDue_mono {due reading later : Timestamp} (waits : reading ≤ later)
    (isDue : due.isDue reading = true) : due.isDue later = true :=
  decide_eq_true (le_trans (of_decide_eq_true isDue) waits)

end Timestamp

namespace Clock

/-- A clock whose readings never go back. -/
def Monotonic : Clock → Prop
  | manual _ => True
  | sampled record taken => ∀ j k, taken ≤ j → j ≤ k → record j ≤ record k

def isManual : Clock → Bool
  | manual _ => true
  | sampled .. => false

theorem monotonic_of_isManual {c : Clock} (manual : c.isManual = true) : c.Monotonic := by
  cases c with
  | manual now => trivial
  | sampled record taken => cases manual

/-- From now on every reading is this point or a later one. -/
def Reaches (point : Timestamp) : Clock → Prop
  | manual now => point ≤ now
  | sampled record taken => ∀ k, taken ≤ k → point ≤ record k

/-- The same clock, however often it was read. -/
def Alike : Clock → Clock → Prop
  | manual now, manual now' => now = now'
  | sampled record _, sampled record' _ => record = record'
  | _, _ => False

theorem Alike.refl (c : Clock) : c.Alike c := by
  cases c <;> rfl

theorem Monotonic.reaches {c : Clock} (monotonic : c.Monotonic) : c.Reaches c.read.1 := by
  cases c with
  | manual now => exact now.le_refl
  | sampled record taken => exact fun k later => monotonic taken k (Nat.le_refl _) later

namespace Reaches

variable {point : Timestamp} {c : Clock}

theorem reading (reaches : c.Reaches point) : point ≤ c.read.1 := by
  cases c with
  | manual now => exact reaches
  | sampled record taken => exact reaches taken (Nat.le_refl _)

theorem read (reaches : c.Reaches point) : c.read.2.Reaches point := by
  cases c with
  | manual now => exact reaches
  | sampled record taken => exact fun k later => reaches k (Nat.le_of_succ_le later)

theorem advance (reaches : c.Reaches point) (step : Duration) : (c.advance step).Reaches point := by
  cases c with
  | manual now => exact Timestamp.le_trans reaches (now.le_after step)
  | sampled record taken => exact reaches

theorem set (reaches : c.Reaches point) (target : Timestamp) : (c.set target).Reaches point := by
  cases c with
  | manual now =>
    simp only [Clock.set, Clock.Reaches]
    split
    · rename_i ahead
      exact Timestamp.le_trans reaches (Timestamp.le_of_lt ahead)
    · exact reaches
  | sampled record taken => exact reaches

end Reaches

namespace Alike

variable {c d : Clock}

theorem read (alike : c.Alike d) : c.read.2.Alike d.read.2 := by
  cases c <;> cases d <;> exact alike

theorem read_left (alike : c.Alike d) : c.read.2.Alike d := by
  cases c <;> cases d <;> exact alike

theorem advance (alike : c.Alike d) (step : Duration) : (c.advance step).Alike (d.advance step) := by
  cases c <;> cases d <;> cases alike <;> rfl

theorem set (alike : c.Alike d) (target : Timestamp) : (c.set target).Alike (d.set target) := by
  cases c <;> cases d <;> cases alike <;> rfl

end Alike

end Clock

end EventEngine
