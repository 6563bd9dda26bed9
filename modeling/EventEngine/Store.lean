/-! Values under numbers. A number that was never written holds the default, so reading
needs no bound and a write is seen at its own number only. -/
namespace EventEngine

structure Store (α : Type) where
  data : Array α

namespace Store

variable {α : Type} [Inhabited α]

def empty : Store α := ⟨#[]⟩

instance : Inhabited (Store α) := ⟨empty⟩

/-- The number after the last one written. -/
def size (s : Store α) : Nat := s.data.size

def get (s : Store α) (i : Nat) : α := s.data[i]?.getD default

/-- Room for a number. -/
def grow (s : Store α) (i : Nat) : Store α :=
  if i < s.data.size then s else ⟨s.data ++ Array.replicate (i + 1 - s.data.size) default⟩

/-- Changes the value of a number. -/
def modify (s : Store α) (i : Nat) (f : α → α) : Store α := ⟨(s.grow i).data.modify i f⟩

def set (s : Store α) (i : Nat) (a : α) : Store α := s.modify i fun _ => a

/-- Writes the next number. -/
def push (s : Store α) (a : α) : Store α := ⟨s.data.push a⟩

theorem lt_size_grow (s : Store α) (i : Nat) : i < (s.grow i).data.size := by
  unfold grow
  split
  · assumption
  · simp only [Array.size_append, Array.size_replicate]
    omega

theorem get_grow (s : Store α) (i j : Nat) : (s.grow i).get j = s.get j := by
  unfold grow get
  split
  · rfl
  · by_cases h : j < s.data.size
    · simp only [Array.getElem?_append_left h]
    · rw [Array.getElem?_append_right (by omega), Array.getElem?_replicate,
        Array.getElem?_eq_none (by omega)]
      split <;> rfl

@[simp] theorem get_modify (s : Store α) (i j : Nat) (f : α → α) :
    (s.modify i f).get j = if i = j then f (s.get j) else s.get j := by
  have h : ((s.grow i).data.modify i f)[j]?.getD default =
      if i = j then f ((s.grow i).get j) else (s.grow i).get j := by
    rw [Array.getElem?_modify]
    by_cases same : i = j
    · subst same
      simp only [if_true, get, Array.getElem?_eq_getElem (lt_size_grow s i), Option.map_some,
        Option.getD_some]
    · simp only [same, if_false, get]
  rw [get_grow] at h
  exact h

@[simp] theorem get_set (s : Store α) (i j : Nat) (a : α) :
    (s.set i a).get j = if i = j then a else s.get j := by
  simp [set]

theorem size_modify (s : Store α) (i : Nat) (f : α → α) :
    (s.modify i f).size = max s.size (i + 1) := by
  simp only [size, modify, Array.size_modify, grow]
  split
  · omega
  · simp only [Array.size_append, Array.size_replicate]
    omega

theorem size_le_modify (s : Store α) (i : Nat) (f : α → α) : s.size ≤ (s.modify i f).size :=
  size_modify s i f ▸ Nat.le_max_left ..

omit [Inhabited α] in
@[simp] theorem size_push (s : Store α) (a : α) : (s.push a).size = s.size + 1 := Array.size_push ..

/-- A value that is written next to the last one replaces the default. -/
theorem get_push (s : Store α) (i : Nat) (a : α) :
    (s.push a).get i = if i = s.size then a else s.get i := by
  simp only [push, get, size, Array.getElem?_push]
  by_cases last : i = s.data.size
  · simp only [last, if_true, Option.getD_some]
  · simp only [last, if_false]

theorem get_of_size_le (s : Store α) {i : Nat} (unwritten : s.size ≤ i) : s.get i = default := by
  simp only [get, Array.getElem?_eq_none (by simpa only [size] using unwritten), Option.getD_none]

@[simp] theorem get_empty (i : Nat) : (empty : Store α).get i = default := by
  simp [get, empty]

end Store
end EventEngine
