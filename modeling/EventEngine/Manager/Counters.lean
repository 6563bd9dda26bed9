/-! What a manager counts over its life. -/
namespace EventEngine

/-- The counters of a manager, which have no bound here. As long as none of them comes to 2⁶⁴, a run
agrees with one that counts in 64-bit words; this is shown in the modules of `Proofs/Words`. -/
structure Counters where
  connects : Nat := 0
  /-- Registrations removed on request. -/
  disconnects : Nat := 0
  conflicts : Nat := 0
  queued : Nat := 0
  dequeued : Nat := 0
  dispatched : Nat := 0
  consumed : Nat := 0
  invocations : Nat := 0
  /-- Registrations removed because their listener was gone. -/
  pruned : Nat := 0
  /-- Dispatches during which their list changed and that no listener consumed. -/
  anomalies : Nat := 0
  drainsCompleted : Nat := 0
  drainsPartial : Nat := 0
  deriving DecidableEq, Repr, Inhabited

namespace Counters

def drains (c : Counters) : Nat := c.drainsCompleted + c.drainsPartial

/-- The counters in their fixed order. -/
def toList (c : Counters) : List Nat :=
  [c.connects, c.disconnects, c.conflicts, c.queued, c.dequeued, c.dispatched, c.consumed,
    c.invocations, c.pruned, c.anomalies, c.drainsCompleted, c.drainsPartial]

end Counters
end EventEngine
