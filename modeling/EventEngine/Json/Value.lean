import EventEngine.Number.Shortest

/-! Documents: the values that events are stored as. Whole numbers within a 64-bit
word keep their exact value, all others are doubles. The members of an object stand
in ascending order of their names, each name once. -/
namespace EventEngine

inductive Json
  | null
  | bool (b : Bool)
  | int (n : Int)
  | float (x : Number.Double)
  | string (s : String)
  | array (items : List Json)
  | object (members : List (String × Json))
  deriving Inhabited, Repr, BEq

namespace Json

/-- Puts a member in its place; an older one of that name gives way. -/
def insertMember (name : String) (value : Json) : List (String × Json) → List (String × Json)
  | [] => [(name, value)]
  | (other, held) :: rest =>
    if name < other then (name, value) :: (other, held) :: rest
    else if name = other then (name, value) :: rest
    else (other, held) :: insertMember name value rest

/-- The object of some members, later ones winning. -/
def ofMembers (members : List (String × Json)) : Json :=
  object (members.foldl (fun held member => insertMember member.1 member.2 held) [])

def get? : Json → String → Option Json
  | object members, name => (members.find? (·.1 == name)).map (·.2)
  | _, _ => none

/-- The number as a document holds it: whole where it fits a 64-bit word. -/
def ofInt (n : Int) : Json :=
  if Int64.minValue.toInt ≤ n ∧ n < UInt64.size then int n else float (.ofInt n)

def ofNat (n : Nat) : Json := ofInt n

end Json
end EventEngine
