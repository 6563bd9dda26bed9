import EventEngine.Scenario.Step

/-! What a scenario remembers: which names stand for what, how often its listeners were
called, and the trace of their calls. -/
namespace EventEngine.Scenario

/-- What a scripted listener does. -/
structure Script where
  label : String := ""
  body : List (List (String × Step)) := []
  loops : Bool := false
  consume : List Bool := []
  calls : Nat := 0
  deriving Inhabited

/-- The steps of the `n`-th call, counted from zero. -/
def Script.stepsAt (s : Script) (n : Nat) : List (String × Step) :=
  match s.body[n]? with
  | some steps => steps
  | none => if s.loops then s.body.getLast?.getD [] else []

inductive TraceEntry
  /-- A call of a listener begins. The event is named, or shown. -/
  | called (l : String) (n : Nat) (declared : Option String) (shown : String)
  | did (l : String) (verb : String) (answer : Answer)
  | ended (l : String) (consumed : Bool)

structure Stage where
  managers : List (String × ManagerId) := []
  listeners : List (String × ListenerId) := []
  events : List (String × EventRef) := []
  engines : List (String × Engine) := []
  scripts : Store Script := .empty
  trace : Array TraceEntry := #[]

/-- Gives a name a meaning. -/
def bindName {α : Type} (name : String) (a : α) (names : List (String × α)) : List (String × α) :=
  (name, a) :: names.filter (·.1 != name)

/-- Takes a name away. -/
def unbindName {α : Type} (name : String) (names : List (String × α)) : List (String × α) :=
  names.filter (·.1 != name)

/-- What a name stands for. -/
def meaning? {α : Type} (name : String) (names : List (String × α)) : Option α :=
  (names.find? (·.1 == name)).map (·.2)

/-- The first name, in the order of names, of something. -/
def nameOf? {α : Type} (means : α → Bool) (names : List (String × α)) : Option String :=
  (names.filter (means ·.2)).foldl (fun least entry =>
    match least with
    | some name => some (if entry.1 < name then entry.1 else name)
    | none => some entry.1) none

namespace Stage

def nameOfEvent? (e : EventRef) (s : Stage) : Option String := nameOf? (·.same e) s.events

def tell (entry : TraceEntry) (s : Stage) : Stage := { s with trace := s.trace.push entry }

end Stage
end EventEngine.Scenario
