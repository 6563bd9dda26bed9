import EventEngine.Event.Debug
import EventEngine.Json.Value

/-! The stored form of events: an object with the record's fields. Singles are widened
to doubles of the same value; what is no finite number is stored as null. -/
namespace EventEngine

open Number (Single)

def Duration.encode (d : Duration) : Json :=
  .ofMembers [("secs", .int d.secs.toNat), ("nanos", .int d.nanos)]

def Timestamp.encode (t : Timestamp) : Json := t.sinceOrigin.encode

def Priority.encode (p : Priority) : Json := .int p.rank

def TypeId.encode (t : TypeId) : Json := .int t.value.toNat

/-- The stored form of a single. -/
def encodeSingle (x : Single) : Json := if x.isFinite then .float x.toDouble else .null

/-- Variants without content are stored as their names. -/
def Device.encode : Device → Json
  | joystick number => .object [("Joystick", .int number.toNat)]
  | device => .string device.debug

def KeyAction.encode (action : KeyAction) : Json := .string action.debug

def SensorKind.encode (kind : SensorKind) : Json := .string kind.debug

/-- The stored fields of a payload in the order of its record. -/
def Payload.encodeFields : Payload → List (String × Json)
  | quit exitCode => [("exit_code", .int exitCode.toInt)]
  | update tick delta => [("tick", .int tick.toNat), ("delta", delta.encode)]
  | render frame => [("frame", .int frame.toNat)]
  | input source code value =>
    [("device", source.encode), ("code", .int code.toNat), ("value", encodeSingle value)]
  | keyboard key action => [("key", .int key.toNat), ("action", action.encode)]
  | joystickAxis joystick axis value =>
    [("joystick", .int joystick.toNat), ("axis", .int axis.toNat), ("value", encodeSingle value)]
  | sensor kind x y z =>
    [("sensor", kind.encode),
      ("values", .array [encodeSingle x, encodeSingle y, encodeSingle z])]

/-- All stored fields in the order of the record. -/
def EngineEvent.encodeFields (e : EngineEvent) : List (String × Json) :=
  e.payload.encodeFields ++ [("priority", e.priority.encode), ("timestamp", e.due.encode)]

/-- The stored form by name. -/
def EngineEvent.encode (e : EngineEvent) : Json := .ofMembers e.encodeFields

/-- The stored form by position. -/
def EngineEvent.encodePositional (e : EngineEvent) : Json := .array (e.encodeFields.map (·.2))

end EventEngine
