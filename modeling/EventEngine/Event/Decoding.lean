import EventEngine.Event.Encoding
import EventEngine.Json.Decoder

/-! Reading events back from their stored form. Values are taken as they stand: the
position of an axis is not brought into range, only priorities are. -/
namespace EventEngine

open Json (Shape Slot)

/-- Nanoseconds beyond a second carry; other members than the two are refused. -/
def Duration.decode : Decoder Duration := fun value =>
  let shape : Shape := { name := "Duration", fields := ["secs", "nanos"], strict := true }
  let secs := value.slot 0 "secs" Json.decodeUInt64
  let nanos := value.slot 1 "nanos" Json.decodeUInt32
  Json.decodeRecord shape value [secs.report "secs", nanos.report "nanos"] do
    let secs ← secs.get "secs"
    let nanos ← nanos.get "nanos"
    match Duration.ofParts? secs.toNat nanos.toNat with
    | some d => .ok d
    | none => .error .durationOverflow

def Timestamp.decode : Decoder Timestamp := fun value => (Duration.decode value).map Timestamp.mk

def Priority.decode : Decoder Priority := fun value =>
  value.decodeUInt8.map fun rank => Priority.ofNat rank.toNat

def TypeId.decode : Decoder TypeId := fun value => value.decodeUInt32.map TypeId.mk

def Device.decode : Decoder Device := fun value => do
  let (name, content) ←
    value.decodeVariant ["Keyboard", "Mouse", "Touch", "Joystick", "Sensor"]
  match name with
  | "Joystick" =>
    match content with
    | some number => number.decodeUInt8.map Device.joystick
    | none => .error (.invalidType .unitVariant "newtype variant")
  | "Keyboard" => (Json.unitContent content).map fun _ => Device.keyboard
  | "Mouse" => (Json.unitContent content).map fun _ => Device.mouse
  | "Touch" => (Json.unitContent content).map fun _ => Device.touch
  | _ => (Json.unitContent content).map fun _ => Device.sensor

def KeyAction.decode : Decoder KeyAction := fun value => do
  let (name, content) ← value.decodeVariant ["Pressed", "Released", "Repeated"]
  (Json.unitContent content).map fun _ =>
    match name with
    | "Pressed" => KeyAction.pressed
    | "Released" => KeyAction.released
    | _ => KeyAction.repeated

def SensorKind.decode : Decoder SensorKind := fun value => do
  let (name, content) ←
    value.decodeVariant ["Accelerometer", "Gyroscope", "Magnetometer", "Orientation"]
  (Json.unitContent content).map fun _ =>
    match name with
    | "Accelerometer" => SensorKind.accelerometer
    | "Gyroscope" => SensorKind.gyroscope
    | "Magnetometer" => SensorKind.magnetometer
    | _ => SensorKind.orientation

/-- Three singles. -/
def decodeAxes : Decoder (Number.Single × Number.Single × Number.Single)
  | .array [x, y, z] => do
    let x ← x.decodeSingle
    let y ← y.decodeSingle
    let z ← z.decodeSingle
    .ok (x, y, z)
  | .array items => do
    (items.take 3).forM fun item => (item.decodeSingle).map fun _ => ()
    if items.length < 3 then .error (.invalidLength items.length "an array of length 3")
    else .error (.invalidLength items.length "fewer elements in array")
  | value => .error (.invalidType value.found "an array of length 3")

/-- The fields of a kind in the order of its record. -/
def Kind.fields (kind : Kind) : List String :=
  (match kind with
    | quit => ["exit_code"]
    | update => ["tick", "delta"]
    | render => ["frame"]
    | input => ["device", "code", "value"]
    | keyboard => ["key", "action"]
    | joystickAxis => ["joystick", "axis", "value"]
    | sensor => ["sensor", "values"]) ++ ["priority", "timestamp"]

namespace EngineEvent

/-- A record of a kind: the payload's fields, then the priority and the due time. -/
def decodeWith (kind : Kind) (value : Json) (reports : List Json.SlotReport)
    (payload : Except DecodeError Payload) : Except DecodeError EngineEvent :=
  let shape : Shape := { name := kind.recordName, fields := kind.fields }
  let priority := value.slot reports.length "priority" Priority.decode
  let due := value.slot (reports.length + 1) "timestamp" Timestamp.decode
  Json.decodeRecord shape value
    (reports ++ [priority.report "priority", due.report "timestamp"]) do
    let payload ← payload
    let priority ← priority.get "priority"
    let due ← due.get "timestamp"
    .ok ⟨payload, priority, due⟩

/-- The event of a kind that a document stores. -/
def decode (kind : Kind) : Decoder EngineEvent := fun value =>
  match kind with
  | .quit =>
    let exitCode := value.slot 0 "exit_code" Json.decodeInt32
    decodeWith kind value [exitCode.report "exit_code"]
      ((exitCode.get "exit_code").map Payload.quit)
  | .update =>
    let tick := value.slot 0 "tick" Json.decodeUInt64
    let delta := value.slot 1 "delta" Duration.decode
    decodeWith kind value [tick.report "tick", delta.report "delta"] do
      .ok (.update (← tick.get "tick") (← delta.get "delta"))
  | .render =>
    let frame := value.slot 0 "frame" Json.decodeUInt64
    decodeWith kind value [frame.report "frame"] ((frame.get "frame").map Payload.render)
  | .input =>
    let device := value.slot 0 "device" Device.decode
    let code := value.slot 1 "code" Json.decodeUInt32
    let sample := value.slot 2 "value" Json.decodeSingle
    decodeWith kind value [device.report "device", code.report "code", sample.report "value"] do
      .ok (.input (← device.get "device") (← code.get "code") (← sample.get "value"))
  | .keyboard =>
    let key := value.slot 0 "key" Json.decodeUInt32
    let action := value.slot 1 "action" KeyAction.decode
    decodeWith kind value [key.report "key", action.report "action"] do
      .ok (.keyboard (← key.get "key") (← action.get "action"))
  | .joystickAxis =>
    let joystick := value.slot 0 "joystick" Json.decodeUInt8
    let axis := value.slot 1 "axis" Json.decodeUInt8
    let sample := value.slot 2 "value" Json.decodeSingle
    decodeWith kind value
      [joystick.report "joystick", axis.report "axis", sample.report "value"] do
      .ok (.joystickAxis (← joystick.get "joystick") (← axis.get "axis") (← sample.get "value"))
  | .sensor =>
    let sensor := value.slot 0 "sensor" SensorKind.decode
    let axes := value.slot 1 "values" decodeAxes
    decodeWith kind value [sensor.report "sensor", axes.report "values"] do
      let sensor ← sensor.get "sensor"
      let (x, y, z) ← axes.get "values"
      .ok (.sensor sensor x y z)

end EngineEvent
end EventEngine
