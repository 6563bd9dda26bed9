import EventEngine.Json.Value
import EventEngine.Text.Quoted

/-! Reading typed values out of documents, with one cause for each way to fail. A
record may stand as an object or as an array of its fields. The members of an object
are looked at in the order of their names, so the first fault in that order is
reported; absent fields are reported afterwards in the order of the record. -/
namespace EventEngine

inductive Found
  | null
  | bool (b : Bool)
  | int (n : Int)
  | float (x : Number.Double)
  | string (s : String)
  | sequence
  | map
  | unitVariant
  deriving DecidableEq, Repr

inductive DecodeError
  | invalidType (found : Found) (expected : String)
  | invalidValue (found : Found) (expected : String)
  | invalidLength (length : Nat) (expected : String)
  | unknownVariant (name : String) (options : List String)
  | unknownField (name : String) (options : List String)
  | missingField (name : String)
  | durationOverflow
  deriving DecidableEq, Repr

def Found.text : Found → String
  | null => "null"
  | bool b => s!"boolean `{b}`"
  | int n => s!"integer `{n}`"
  | float x => s!"floating point `{x.documentText}`"
  | string s => s!"string {Text.quoted s}"
  | sequence => "sequence"
  | map => "map"
  | unitVariant => "unit variant"

def optionsText (options : List String) : String :=
  match options.map (fun name => s!"`{name}`") with
  | [a] => a
  | [a, b] => s!"{a} or {b}"
  | all => "one of " ++ ", ".intercalate all

def DecodeError.message : DecodeError → String
  | invalidType found expected => s!"invalid type: {found.text}, expected {expected}"
  | invalidValue found expected => s!"invalid value: {found.text}, expected {expected}"
  | invalidLength length expected => s!"invalid length {length}, expected {expected}"
  | unknownVariant name options => s!"unknown variant `{name}`, expected {optionsText options}"
  | unknownField name options => s!"unknown field `{name}`, expected {optionsText options}"
  | missingField name => s!"missing field `{name}`"
  | durationOverflow => "overflow deserializing Duration"

abbrev Decoder (α : Type) := Json → Except DecodeError α

namespace Json

def found : Json → Found
  | null => .null
  | bool b => .bool b
  | int n => .int n
  | float x => .float x
  | string s => .string s
  | array _ => .sequence
  | object _ => .map

/-- A whole number between two bounds; `expected` names the type. -/
def decodeInt (least greatest : Int) (expected : String) : Decoder Int
  | int n =>
    if least ≤ n ∧ n ≤ greatest then .ok n else .error (.invalidValue (.int n) expected)
  | value => .error (.invalidType value.found expected)

def decodeUInt8 : Decoder UInt8 := fun value =>
  (decodeInt 0 0xff "u8" value).map fun n => UInt8.ofNat n.toNat

def decodeUInt32 : Decoder UInt32 := fun value =>
  (decodeInt 0 0xffffffff "u32" value).map fun n => UInt32.ofNat n.toNat

def decodeUInt64 : Decoder UInt64 := fun value =>
  (decodeInt 0 0xffffffffffffffff "u64" value).map fun n => UInt64.ofNat n.toNat

def decodeInt32 : Decoder Int32 := fun value =>
  (decodeInt (-0x80000000) 0x7fffffff "i32" value).map Int32.ofInt

/-- Whole numbers are rounded once, doubles once more. -/
def decodeSingle : Decoder Number.Single
  | int n => .ok (.ofInt n)
  | float x => .ok x.toSingle
  | value => .error (.invalidType value.found "f32")

def decodeBool : Decoder Bool
  | bool b => .ok b
  | value => .error (.invalidType value.found "a boolean")

def decodeString : Decoder String
  | string s => .ok s
  | value => .error (.invalidType value.found "a string")

def decodeUnit : Decoder Unit
  | null => .ok ()
  | value => .error (.invalidType value.found "unit")

/-- The name of a variant and its content, if it has one. -/
def decodeVariant (options : List String) : Decoder (String × Option Json)
  | string name =>
    if name ∈ options then .ok (name, none) else .error (.unknownVariant name options)
  | object [(name, content)] =>
    if name ∈ options then .ok (name, some content) else .error (.unknownVariant name options)
  | object _ => .error (.invalidValue .map "map with a single key")
  | value => .error (.invalidType value.found "string or map")

def unitContent : Option Json → Except DecodeError Unit
  | some content => content.decodeUnit
  | none => .ok ()

/-- How the fields of a record are found. -/
structure Shape where
  name : String
  fields : List String
  /-- Whether members of other names are refused. -/
  strict : Bool := false
  /-- Whether items behind the last field are refused. -/
  bounded : Bool := true

/-- What an array that ends too early was expected to be. -/
def Shape.expected (shape : Shape) : String :=
  if shape.strict then s!"struct {shape.name}"
  else s!"struct {shape.name} with {shape.fields.length} elements"

inductive Slot (α : Type)
  | absent
  | failed (error : DecodeError)
  | found (value : α)

/-- Whether a field is absent, and why it could not be read. -/
structure SlotReport where
  name : String
  absent : Bool
  error : Option DecodeError

namespace Slot

def ofResult {α : Type} : Except DecodeError α → Slot α
  | .ok value => found value
  | .error error => failed error

/-- An absent field may have a value of its own. -/
def withDefault {α : Type} (value : α) : Slot α → Slot α
  | absent => found value
  | slot => slot

def report {α : Type} (name : String) : Slot α → SlotReport
  | absent => ⟨name, true, none⟩
  | failed error => ⟨name, false, some error⟩
  | found _ => ⟨name, false, none⟩

def get {α : Type} (name : String) : Slot α → Except DecodeError α
  | absent => .error (.missingField name)
  | failed error => .error error
  | found value => .ok value

end Slot

/-- The document of the field at a position, by name or by place. -/
def field? (value : Json) (index : Nat) (name : String) : Option Json :=
  match value with
  | array items => items[index]?
  | value => value.get? name

def slot {α : Type} (value : Json) (index : Nat) (name : String) (decode : Decoder α) : Slot α :=
  match value.field? index name with
  | some content => .ofResult (decode content)
  | none => .absent

/-- The fault of one member, unknown names included where they are refused. -/
def memberFault (shape : Shape) (reports : List SlotReport) (name : String) :
    Option DecodeError :=
  match reports.find? (·.name == name) with
  | some report => report.error
  | none => if shape.strict then some (.unknownField name shape.fields) else none

/-- The fault that is reported first: of the members in order of their names and then of
absent fields, or of the items in order. -/
def recordFault (shape : Shape) (value : Json) (reports : List SlotReport) : Option DecodeError :=
  match value with
  | object members =>
    (members.findSome? fun member => memberFault shape reports member.1).or
      ((reports.find? (·.absent)).map fun report => .missingField report.name)
  | array _ =>
    (reports.findSome? (·.error)).or
      ((reports.findIdx? (·.absent)).map fun index => .invalidLength index shape.expected)
  | value => some (.invalidType value.found s!"struct {shape.name}")

def surplusFault (shape : Shape) : Json → Option DecodeError
  | array items =>
    if shape.bounded ∧ shape.fields.length < items.length then
      some (.invalidLength items.length "fewer elements in array")
    else none
  | _ => none

/-- A record whose fields have been looked at: the first fault, or the built value. -/
def decodeRecord {α : Type} (shape : Shape) (value : Json) (reports : List SlotReport)
    (build : Except DecodeError α) : Except DecodeError α :=
  match recordFault shape value reports with
  | some fault => .error fault
  | none =>
    match build with
    | .error fault => .error fault
    | .ok built =>
      match surplusFault shape value with
      | some fault => .error fault
      | none => .ok built

end Json
end EventEngine
