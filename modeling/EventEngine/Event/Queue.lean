import EventEngine.Event.Basic

/-! Deferred events in two buffers that take turns. New events join the pending buffer.
A drain that finds the active buffer empty sorts the pending one and makes it active;
otherwise it goes on with what an earlier drain left. Only pending events can be
cancelled. -/
namespace EventEngine

/-- Greater priorities come first, then earlier due times. -/
def deliveryOrder (a b : EventRef) : Ordering :=
  (compare b.priority.rank a.priority.rank).then <|
    if a.due < b.due then .lt else if b.due < a.due then .gt else .eq

/-- Whether `a` need not wait for `b`. -/
def deliversBefore (a b : EventRef) : Bool := (deliveryOrder a b).isLE

structure Queue where
  active : List EventRef
  pending : Array EventRef
  draining : Bool

namespace Queue

def empty : Queue := ⟨[], #[], false⟩

instance : Inhabited Queue := ⟨empty⟩

def push (e : EventRef) (q : Queue) : Queue := { q with pending := q.pending.push e }

/-- Cancels the first pending occurrence of an event; tells whether there was one. -/
def cancel (e : EventRef) (q : Queue) : Bool × Queue :=
  (q.pending.any (·.same e), { q with pending := q.pending.eraseP (·.same e) })

/-- Cancels the pending events of a category; tells how many there were. -/
def cancelType (t : TypeId) (q : Queue) : Nat × Queue :=
  let kept := q.pending.filter (·.typeId != t)
  (q.pending.size - kept.size, { q with pending := kept })

/-- Cancels an event, or all of its category; tells how many there were. -/
def dequeue (e : EventRef) (all : Bool) (q : Queue) : Nat × Queue :=
  if all then q.cancelType e.typeId
  else
    let (found, q) := q.cancel e
    (found.toNat, q)

/-- The pending occurrences that a cancellation would take out. -/
def cancelled (e : EventRef) (all : Bool) (q : Queue) : List EventRef :=
  if all then (q.pending.filter (·.typeId == e.typeId)).toList
  else (q.pending.find? (·.same e)).toList

/-- Starts a drain, making the pending buffer active if nothing is left over. Refused
while a drain is running. -/
def beginDrain (q : Queue) : Option Queue :=
  if q.draining then none
  else if q.active.isEmpty then
    some { active := q.pending.toList.mergeSort deliversBefore, pending := #[], draining := true }
  else some { q with draining := true }

/-- Takes the front of the active buffer if it is due. -/
def popDue (reading : Timestamp) (q : Queue) : Option (EventRef × Queue) :=
  match q.active with
  | [] => none
  | front :: rest => if front.due.isDue reading then some (front, { q with active := rest }) else none

def finishDrain (q : Queue) : Bool × Queue := (q.active.isEmpty, { q with draining := false })

def length (q : Queue) : Nat := q.active.length + q.pending.size

def isEmpty (q : Queue) : Bool := q.active.isEmpty && q.pending.isEmpty

/-- Everything queued, the active buffer first. -/
def toList (q : Queue) : List EventRef := q.active ++ q.pending.toList

def clear (q : Queue) : Queue := { q with active := [], pending := #[] }

end Queue
end EventEngine
