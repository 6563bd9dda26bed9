import EventEngine.Journal
import EventEngine.Event.Queue
import Mathlib.Algebra.Ring.Nat

/-! The queue of one manager as a transition system of its own. Its steps are the
happenings that move events; all others leave it as it is. -/
namespace EventEngine

namespace Happening

/-- Whether a happening moves events of the queue of a manager. -/
def moves (m : ManagerId) : Happening → Bool
  | .queued n _ | .dequeued n .. | .dropped n .. | .swapped n _ | .handedOver n _ => n == m
  | _ => false

/-- The event that joins the queue of a manager. -/
def joining (m : ManagerId) : Happening → List EventRef
  | .queued n e => if n = m then [e] else []
  | _ => []

/-- The event that a drain of a manager hands over to a dispatch. -/
def delivering (m : ManagerId) : Happening → List EventRef
  | .handedOver n e => if n = m then [e] else []
  | _ => []

/-- The events that a cancellation takes out of the queue of a manager. -/
def cancelling (m : ManagerId) : Happening → List EventRef
  | .dequeued n _ _ _ removed => if n = m then removed else []
  | _ => []

/-- The events that are dropped with the whole queue of a manager. -/
def dropping (m : ManagerId) : Happening → List EventRef
  | .dropped n _ removed => if n = m then removed else []
  | _ => []

/-- The number that clearing the queue of a manager gives. -/
def dropCount (m : ManagerId) : Happening → Nat
  | .dropped n count _ => if n = m then count else 0
  | _ => 0

theorem quiet_moves_nothing {m : ManagerId} {h : Happening} (still : h.moves m = false) :
    h.joining m = [] ∧ h.delivering m = [] ∧ h.cancelling m = [] ∧ h.dropping m = [] ∧
      h.dropCount m = 0 := by
  cases h with
  | queued | dequeued | dropped | handedOver =>
    simp only [moves, beq_eq_false_iff_ne, ne_eq] at still
    simp only [joining, delivering, cancelling, dropping, dropCount, if_neg still, and_self]
  | _ => exact ⟨rfl, rfl, rfl, rfl, rfl⟩

end Happening

namespace History

/-- The events that joined the queue of a manager in a part of a run. -/
def joined (m : ManagerId) (hs : List Happening) : List EventRef := hs.flatMap (·.joining m)

/-- The events that drains of a manager handed over in a part of a run. -/
def delivered (m : ManagerId) (hs : List Happening) : List EventRef := hs.flatMap (·.delivering m)

/-- The events that were cancelled in a part of a run. -/
def cancelled (m : ManagerId) (hs : List Happening) : List EventRef := hs.flatMap (·.cancelling m)

/-- The events that were dropped in a part of a run. -/
def dropped (m : ManagerId) (hs : List Happening) : List EventRef := hs.flatMap (·.dropping m)

/-- The sum of what clearing the queue of a manager gave in a part of a run. -/
def dropCounts (m : ManagerId) (hs : List Happening) : Nat := (hs.map (·.dropCount m)).sum

end History

/-- The two buffers of a queue and the counters that go with them. -/
structure Stock where
  active : List EventRef
  pending : List EventRef
  queued : Nat
  dequeued : Nat

namespace Stock

def empty : Stock := ⟨[], [], 0, 0⟩

/-- What a cancellation takes out of the pending buffer: the first occurrence of an event, or
all events of its category. -/
def cancelled (e : EventRef) (all : Bool) (pending : List EventRef) : List EventRef :=
  if all then pending.filter (·.typeId == e.typeId) else (pending.find? (·.same e)).toList

/-- What a cancellation leaves in the pending buffer. -/
def kept (e : EventRef) (all : Bool) (pending : List EventRef) : List EventRef :=
  if all then pending.filter (·.typeId != e.typeId) else pending.eraseP (·.same e)

/-- What a happening does to the queue of a manager. -/
inductive Step (m : ManagerId) : Stock → Happening → Stock → Prop
  | quiet (still : h.moves m = false) : Step m s h s
  | queued : Step m s (.queued m e) { s with pending := s.pending ++ [e], queued := s.queued + 1 }
  | dequeued (e : EventRef) (all : Bool) (taken : cancelled e all s.pending = removed) :
    Step m s (.dequeued m e all removed.length removed)
      { s with pending := kept e all s.pending, dequeued := s.dequeued + removed.length }
  | dropped : Step m s (.dropped m (s.active ++ s.pending).length (s.active ++ s.pending))
      { s with active := [], pending := [] }
  | swapped (drained : s.active = []) : Step m s (.swapped m (s.pending.mergeSort deliversBefore))
      { s with active := s.pending.mergeSort deliversBefore, pending := [] }
  | handedOver (front : s.active = e :: rest) : Step m s (.handedOver m e) { s with active := rest }

/-- What happenings do, one after the other. -/
inductive Run (m : ManagerId) : Stock → List Happening → Stock → Prop
  | nil : Run m s [] s
  | cons (first : Step m s h next) (rest : Run m next hs last) : Run m s (h :: hs) last

variable {m : ManagerId} {s middle last : Stock} {h : Happening} {hs later : List Happening}

theorem Run.append (first : Run m s hs middle) (rest : Run m middle later last) :
    Run m s (hs ++ later) last := by
  induction first with
  | nil => exact rest
  | cons step _ ih => exact .cons step (ih rest)

/-- A run comes to each of its happenings. -/
theorem Run.split (run : Run m s (hs ++ h :: later) last) :
    ∃ middle next, Run m s hs middle ∧ Step m middle h next ∧ Run m next later last := by
  induction hs generalizing s with
  | nil =>
    cases run with
    | cons step rest => exact ⟨s, _, .nil, step, rest⟩
  | cons first hs ih =>
    cases run with
    | cons step rest =>
      obtain ⟨middle, next, before, here, after⟩ := ih rest
      exact ⟨middle, next, .cons step before, here, after⟩

end Stock

end EventEngine
