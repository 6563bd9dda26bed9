import EventEngine.Event.TypeId
import EventEngine.Event.Priority
import EventEngine.Time.Timestamp

/-! Events: immutable records with a category, a priority and a due time. The engine
has seven kinds of its own; records of other hosts bring any category, also one of
the engine's, without being of its kind. -/
namespace EventEngine

open Number (Single)

inductive Device
  | keyboard
  | mouse
  | touch
  | joystick (number : UInt8)
  | sensor
  deriving DecidableEq, Repr

inductive KeyAction
  | pressed
  | released
  | repeated
  deriving DecidableEq, Repr

def KeyAction.isPressed : KeyAction → Bool
  | pressed | repeated => true
  | released => false

inductive SensorKind
  | accelerometer
  | gyroscope
  | magnetometer
  | orientation
  deriving DecidableEq, Repr

inductive Payload
  | quit (exitCode : Int32)
  | update (tick : UInt64) (delta : Duration)
  | render (frame : UInt64)
  | input (device : Device) (code : UInt32) (value : Single)
  | keyboard (key : UInt32) (action : KeyAction)
  | joystickAxis (joystick axis : UInt8) (value : Single)
  | sensor (sensor : SensorKind) (x y z : Single)
  deriving DecidableEq, Repr

inductive Kind
  | quit
  | update
  | render
  | input
  | keyboard
  | joystickAxis
  | sensor
  deriving DecidableEq, Repr

namespace Kind

def all : List Kind := [quit, update, render, input, keyboard, joystickAxis, sensor]

def recordName : Kind → String
  | quit => "QuitEvent"
  | update => "UpdateEvent"
  | render => "RenderEvent"
  | input => "InputEvent"
  | keyboard => "KeyboardEvent"
  | joystickAxis => "JoystickAxisEvent"
  | sensor => "SensorEvent"

def typeName (kind : Kind) : String := "Event::" ++ kind.recordName

def typeId : Kind → TypeId
  | quit => TypeId.ofName "Event::QuitEvent"
  | update => TypeId.ofName "Event::UpdateEvent"
  | render => TypeId.ofName "Event::RenderEvent"
  | input => TypeId.ofName "Event::InputEvent"
  | keyboard => TypeId.ofName "Event::KeyboardEvent"
  | joystickAxis => TypeId.ofName "Event::JoystickAxisEvent"
  | sensor => TypeId.ofName "Event::SensorEvent"

/-- Quitting comes first, input before motion sensors, ticks last. -/
def defaultPriority : Kind → Priority
  | quit => .highest
  | update | render => .lowest
  | input | keyboard | joystickAxis => .medium
  | sensor => .low

end Kind

def Payload.kind : Payload → Kind
  | quit .. => .quit
  | update .. => .update
  | render .. => .render
  | input .. => .input
  | keyboard .. => .keyboard
  | joystickAxis .. => .joystickAxis
  | sensor .. => .sensor

structure EngineEvent where
  payload : Payload
  priority : Priority
  due : Timestamp
  deriving DecidableEq, Repr

namespace EngineEvent

/-- A payload with the priority of its kind, due at once. -/
def ofPayload (payload : Payload) : EngineEvent := ⟨payload, payload.kind.defaultPriority, .now⟩

def quit (exitCode : Int32) : EngineEvent := ofPayload (.quit exitCode)

def update (tick : UInt64) (delta : Duration) : EngineEvent := ofPayload (.update tick delta)

def render (frame : UInt64) : EngineEvent := ofPayload (.render frame)

def input (device : Device) (code : UInt32) (value : Single) : EngineEvent :=
  ofPayload (.input device code value)

def keyboard (key : UInt32) (action : KeyAction) : EngineEvent := ofPayload (.keyboard key action)

/-- The position of an axis is brought into −1 to 1. -/
def joystickAxis (joystick axis : UInt8) (value : Single) : EngineEvent :=
  ofPayload (.joystickAxis joystick axis value.clampUnit)

def sensor (sensor : SensorKind) (x y z : Single) : EngineEvent :=
  ofPayload (.sensor sensor x y z)

def withPriority (priority : Priority) (e : EngineEvent) : EngineEvent := { e with priority }

def scheduledAt (due : Timestamp) (e : EngineEvent) : EngineEvent := { e with due }

end EngineEvent

inductive Event
  | engine (e : EngineEvent)
  /-- A record of another host that states its category only. -/
  | plain (type : TypeId)
  | custom (type : TypeId) (priority : Priority) (due : Timestamp)
  deriving DecidableEq, Repr

namespace Event

/-- The category whose listeners receive the event. -/
def typeId : Event → TypeId
  | engine e => e.payload.kind.typeId
  | plain type => type
  | custom type .. => type

def priority : Event → Priority
  | engine e => e.priority
  | plain _ => .lowest
  | custom _ priority _ => priority

def due : Event → Timestamp
  | engine e => e.due
  | plain _ => .now
  | custom _ _ due => due

/-- The engine kind this event is of, whatever its category says. -/
def kind? : Event → Option Kind
  | engine e => some e.payload.kind
  | _ => none

instance : Inhabited Event := ⟨plain default⟩

end Event

/-- An event together with its identity: copies of one reference are one event, and
equal records may be different events. -/
structure EventRef where
  id : Nat
  event : Event
  deriving DecidableEq, Repr, Inhabited

namespace EventRef

def typeId (e : EventRef) : TypeId := e.event.typeId
def priority (e : EventRef) : Priority := e.event.priority
def due (e : EventRef) : Timestamp := e.event.due

def same (a b : EventRef) : Bool := a.id == b.id

end EventRef
end EventEngine
