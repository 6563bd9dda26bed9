import EventEngine.Event.Basic
import EventEngine.Number.Shortest

/-! The structural text of events: the record's name and its fields in order. -/
namespace EventEngine

/-- A record's name and its fields between braces. -/
def recordText (name : String) (fields : List (String × String)) : String :=
  name ++ " \x7b " ++ ", ".intercalate (fields.map fun (field, value) => field ++ ": " ++ value) ++
    " \x7d"

def Device.debug : Device → String
  | keyboard => "Keyboard"
  | mouse => "Mouse"
  | touch => "Touch"
  | joystick number => s!"Joystick({number.toNat})"
  | sensor => "Sensor"

def KeyAction.debug : KeyAction → String
  | pressed => "Pressed"
  | released => "Released"
  | repeated => "Repeated"

def SensorKind.debug : SensorKind → String
  | accelerometer => "Accelerometer"
  | gyroscope => "Gyroscope"
  | magnetometer => "Magnetometer"
  | orientation => "Orientation"

/-- The fields of a payload in the order of its record. -/
def Payload.debugFields : Payload → List (String × String)
  | quit exitCode => [("exit_code", toString exitCode.toInt)]
  | update tick delta => [("tick", toString tick.toNat), ("delta", delta.debug)]
  | render frame => [("frame", toString frame.toNat)]
  | input source code value =>
    [("device", source.debug), ("code", toString code.toNat), ("value", value.debug)]
  | keyboard key action => [("key", toString key.toNat), ("action", action.debug)]
  | joystickAxis joystick axis value =>
    [("joystick", toString joystick.toNat), ("axis", toString axis.toNat), ("value", value.debug)]
  | sensor kind x y z =>
    [("sensor", kind.debug), ("values", s!"[{x.debug}, {y.debug}, {z.debug}]")]

def EngineEvent.debug (e : EngineEvent) : String :=
  recordText e.payload.kind.recordName
    (e.payload.debugFields ++ [("priority", e.priority.debug), ("timestamp", e.due.debug)])

def Event.debug : Event → String
  | engine e => e.debug
  | plain type => s!"Plain({type.debug})"
  | custom type priority due =>
    recordText "Custom" [("id", type.debug), ("priority", priority.debug), ("at", due.debug)]

end EventEngine
