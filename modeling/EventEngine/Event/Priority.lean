/-! How urgent an event is: a rank from 0 to 10, greater ranks first. -/
namespace EventEngine

structure Priority where
  rank : Nat
  rank_le : rank ≤ 10
  deriving DecidableEq, Repr

namespace Priority

/-- Ranks above the highest count as the highest. -/
def ofNat (rank : Nat) : Priority := ⟨min rank 10, Nat.min_le_right ..⟩

def lowest : Priority := ofNat 0
def low : Priority := ofNat 2
def medium : Priority := ofNat 5
def high : Priority := ofNat 8
def highest : Priority := ofNat 10

instance : Inhabited Priority := ⟨lowest⟩

instance : LE Priority where
  le a b := a.rank ≤ b.rank

instance (a b : Priority) : Decidable (a ≤ b) := inferInstanceAs (Decidable (a.rank ≤ b.rank))

instance : ToString Priority where
  toString p := toString p.rank

/-- The structural text of a priority. -/
def debug (p : Priority) : String := s!"Priority({p.rank})"

@[simp] theorem rank_ofNat (rank : Nat) : (ofNat rank).rank = min rank 10 := rfl

theorem ofNat_rank (p : Priority) : ofNat p.rank = p := by
  cases p with
  | mk rank le => simp only [ofNat, Nat.min_eq_left le]

end Priority
end EventEngine
