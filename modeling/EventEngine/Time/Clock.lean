import EventEngine.Time.Timestamp

/-! Where time comes from. A manual clock stands still until it is moved, and never
moves back; a sampled clock answers its `n`-th reading from a fixed record, which is
how readings of a real clock enter. -/
namespace EventEngine

inductive Clock
  | manual (now : Timestamp)
  | sampled (record : Nat → Timestamp) (taken : Nat)

namespace Clock

instance : Inhabited Clock := ⟨manual .now⟩

/-- The reading, and the clock after it was taken. -/
def read : Clock → Timestamp × Clock
  | manual now => (now, manual now)
  | sampled record taken => (record taken, sampled record (taken + 1))

/-- Moves a manual clock forward, at most to the end of time. -/
def advance (step : Duration) : Clock → Clock
  | manual now => manual (now.after step)
  | sampled record taken => sampled record taken

/-- Jumps to a later point; going back is ignored. -/
def set (target : Timestamp) : Clock → Clock
  | manual now => manual (if now < target then target else now)
  | sampled record taken => sampled record taken

end Clock
end EventEngine
