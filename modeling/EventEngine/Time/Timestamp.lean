import EventEngine.Time.Duration
import EventEngine.Number.Binary

/-! Points in engine time, measured from the origin of a clock. The origin itself
marks what is due at once. -/
namespace EventEngine

structure Timestamp where
  sinceOrigin : Duration
  deriving DecidableEq, Repr

namespace Timestamp

/-- Due immediately. -/
def now : Timestamp := ⟨.zero⟩

instance : Inhabited Timestamp := ⟨now⟩

def ofMillis (millis : UInt64) : Timestamp := ⟨.ofMillis millis⟩

/-- Why a number of seconds is no point in time. -/
inductive SecondsError
  | tooLarge
  deriving DecidableEq, Repr

def SecondsError.message : SecondsError → String
  | tooLarge => "cannot convert float seconds to Duration: value is either too big or NaN"

/-- The point so many nanoseconds from the origin, if time goes on that long. -/
def ofNanos (nanos : Nat) : Except SecondsError Timestamp :=
  match Duration.ofParts? 0 nanos with
  | some d => .ok ⟨d⟩
  | none => .error .tooLarge

/-- The nanosecond nearest to a number of seconds, ties to the even one. What is
negative or no number counts as the origin. -/
def ofSeconds (seconds : Number.Double) : Except SecondsError Timestamp :=
  match seconds.value with
  | .nan => .ok now
  | .infinite negative => if negative then .ok now else .error .tooLarge
  | .finite true _ _ => .ok now
  | .finite false mantissa exponent =>
    ofNanos (Number.roundScaled (mantissa * nanosPerSec) 2 exponent)

instance : LT Timestamp where
  lt a b := a.sinceOrigin < b.sinceOrigin

instance : LE Timestamp where
  le a b := a.sinceOrigin ≤ b.sinceOrigin

instance (a b : Timestamp) : Decidable (a < b) :=
  inferInstanceAs (Decidable (a.sinceOrigin < b.sinceOrigin))

instance (a b : Timestamp) : Decidable (a ≤ b) :=
  inferInstanceAs (Decidable (a.sinceOrigin ≤ b.sinceOrigin))

def isImmediate (t : Timestamp) : Bool := t.sinceOrigin.isZero

/-- An event scheduled at `t` may be delivered once the clock has reached `t`. -/
def isDue (t reading : Timestamp) : Bool := t ≤ reading

/-- Time from `earlier` to `t`, zero if `earlier` is later. -/
def since (t earlier : Timestamp) : Duration := t.sinceOrigin.saturatingSub earlier.sinceOrigin

/-- The point a while later, at most the last one there is. -/
def after (t : Timestamp) (delay : Duration) : Timestamp := ⟨t.sinceOrigin.saturatingAdd delay⟩

instance : ToString Timestamp where
  toString t := s!"{t.sinceOrigin.toMillis}ms"

/-- The structural text of a point in time. -/
def debug (t : Timestamp) : String := s!"Timestamp({t.sinceOrigin.debug})"

end Timestamp
end EventEngine
