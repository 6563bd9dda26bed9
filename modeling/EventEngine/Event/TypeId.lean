import EventEngine.Hash
import EventEngine.Text.Hexadecimal

/-! The category of an event: a word, usually the hash of a name. Names that
collide share a category. -/
namespace EventEngine

structure TypeId where
  value : UInt32
  deriving DecidableEq, Repr, Inhabited

namespace TypeId

/-- The category a name belongs to. -/
def ofName (name : String) : TypeId :=
  ⟨Hash.oneAtATime name.toUTF8.toList Hash.fullMask⟩

/-- The order of categories is the order of their words and has no other meaning. -/
instance : LT TypeId where
  lt a b := a.value < b.value

instance : LE TypeId where
  le a b := a.value ≤ b.value

instance (a b : TypeId) : Decidable (a < b) := inferInstanceAs (Decidable (a.value < b.value))

instance (a b : TypeId) : Decidable (a ≤ b) := inferInstanceAs (Decidable (a.value ≤ b.value))

instance : ToString TypeId where
  toString t := Text.Hexadecimal.word t.value

/-- The structural text of a category. -/
def debug (t : TypeId) : String := s!"EventTypeId({t.value.toNat})"

end TypeId
end EventEngine
