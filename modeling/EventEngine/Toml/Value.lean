import EventEngine.Json.Value

/-! Values of configuration documents. -/
namespace EventEngine.Toml

inductive Value
  | string (s : String)
  | int (n : Int)
  | float (x : Number.Double)
  | bool (b : Bool)
  /-- A date, a time or both, as written. -/
  | dateTime (text : String)
  | array (items : List Value)
  | table (entries : List (String × Value))
  deriving Inhabited, Repr

/-- The member under which a date stands where a record is expected. -/
def dateTimeMember : String := "$__toml_private_datetime"

mutual

def Value.toJson : Value → Json
  | .string s => .string s
  | .int n => .int n
  | .float x => .float x
  | .bool b => .bool b
  | .dateTime text => .object [(dateTimeMember, .string text)]
  | .array items => .array (itemsToJson items)
  | .table entries => .ofMembers (entriesToJson entries)

def itemsToJson : List Value → List Json
  | [] => []
  | item :: rest => item.toJson :: itemsToJson rest

def entriesToJson : List (String × Value) → List (String × Json)
  | [] => []
  | (key, value) :: rest => (key, value.toJson) :: entriesToJson rest

end

end EventEngine.Toml
