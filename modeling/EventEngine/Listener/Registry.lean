import EventEngine.Listener.Table

/-! Which listeners receive which category, in the order of their registration, and
which deliveries are under way. A list is made by the first registration of its
category and stays when it becomes empty; only clearing the registry forgets a
category. A delivery under way holds a frame that records what happened to its list
meanwhile. -/
namespace EventEngine

/-- The names of the living listeners; a listener that is gone has none. -/
abbrev Roll := ListenerId → Option String

namespace Roll

def isAlive (roll : Roll) (l : ListenerId) : Bool := (roll l).isSome

def describe (roll : Roll) (l : ListenerId) : String := (roll l).getD "<dropped>"

end Roll

inductive RegistrationError
  | alreadyConnected (listener : String) (type : TypeId)
  | unknownEventType (type : TypeId)
  | deadListener (type : TypeId)
  deriving DecidableEq, Repr

def RegistrationError.message : RegistrationError → String
  | alreadyConnected listener type =>
    s!"listener '{listener}' is already connected to event type {type}"
  | unknownEventType type => s!"no listener list exists for event type {type}"
  | deadListener type =>
    s!"listener for event type {type} was dropped before it could be connected"

/-- The record of one delivery under way. -/
structure Frame where
  id : UInt64
  type : TypeId
  /-- A listener was connected or disconnected, or the list was cleared. -/
  mutated : Bool := false
  /-- Listeners disconnected since the frame was opened. -/
  removed : List ListenerId := []
  /-- The list was cleared while it held listeners. -/
  cleared : Bool := false
  deriving DecidableEq, Repr

namespace Frame

def markMutated (f : Frame) : Frame := { f with mutated := true }

def markRemoved (l : ListenerId) (f : Frame) : Frame :=
  { f with mutated := true, removed := f.removed.insert l }

def markCleared (f : Frame) : Frame := { f with mutated := true, cleared := true }

end Frame

/-- Frames stand newest first; numbers start again after the last one. -/
structure Registry where
  table : Table
  frames : List Frame
  nextFrame : UInt64
  deriving DecidableEq

namespace Registry

def empty : Registry := ⟨.empty, [], 0⟩

instance : Inhabited Registry := ⟨empty⟩

def mapFrames (t : TypeId) (f : Frame → Frame) (r : Registry) : Registry :=
  { r with frames := r.frames.map fun frame => if frame.type = t then f frame else frame }

def contains (t : TypeId) (l : ListenerId) (r : Registry) : Bool :=
  ((r.table.list? t).getD []).contains l

/-- Appends a living listener to the list of a category that does not hold it yet. -/
def connect (roll : Roll) (l : ListenerId) (t : TypeId) (r : Registry) :
    Except RegistrationError Registry :=
  match roll l with
  | none => .error (.deadListener t)
  | some name =>
    if r.contains t l then .error (.alreadyConnected name t)
    else .ok <| mapFrames t Frame.markMutated
      { r with table := r.table.set t ((r.table.list? t).getD [] ++ [l]) }

/-- Takes a listener off the list of a category, with the number of places it held. -/
def disconnect (l : ListenerId) (t : TypeId) (r : Registry) :
    Except RegistrationError (Nat × Registry) :=
  match r.table.list? t with
  | none => .error (.unknownEventType t)
  | some list =>
    let removed := list.count l
    if removed = 0 then .ok (0, r)
    else .ok (removed, mapFrames t (Frame.markRemoved l)
      { r with table := r.table.set t (list.filter (· != l)) })

/-- Takes a listener that is gone off the list of a category. This is housekeeping and
no change of the list. -/
def prune (roll : Roll) (t : TypeId) (l : ListenerId) (r : Registry) : Bool × Registry :=
  if roll.isAlive l || !r.contains t l then (false, r)
  else (true,
    { r with table := r.table.set t (((r.table.list? t).getD []).filter (· != l)) })

def pruneAll (roll : Roll) (r : Registry) : Nat × Registry :=
  let table := r.table.map (·.filter roll.isAlive)
  (r.table.total - table.total, { r with table })

/-- Forgets every category. Only deliveries of a category that still had listeners see
a change. -/
def clear (r : Registry) : Registry :=
  { r with
    table := .empty
    frames := r.frames.map fun frame =>
      if r.table.count frame.type = 0 then frame else frame.markCleared }

def isDispatching (t : TypeId) (r : Registry) : Bool := r.frames.any (·.type == t)

def depth (r : Registry) : Nat := r.frames.length

def beginDispatch (t : TypeId) (r : Registry) : UInt64 × Registry :=
  (r.nextFrame,
    { r with frames := { id := r.nextFrame, type := t } :: r.frames, nextFrame := r.nextFrame + 1 })

def frame? (id : UInt64) (r : Registry) : Option Frame := r.frames.find? (·.id == id)

/-- Closes a frame and tells whether the list of its category changed meanwhile. -/
def endDispatch (id : UInt64) (r : Registry) : Bool × Registry :=
  (((r.frame? id).map (·.mutated)).getD false, { r with frames := r.frames.eraseP (·.id == id) })

/-- Whether a listener left the list while the frame was open. -/
def removedDuring (id : UInt64) (l : ListenerId) (r : Registry) : Bool :=
  match r.frame? id with
  | some frame => frame.cleared || frame.removed.contains l
  | none => false

end Registry
end EventEngine
