import EventEngine.Event.TypeId

/-! Listener lists by category. The categories ascend and none occurs twice, so a
category has at most one list and the lists can be read off in order. -/
namespace EventEngine

/-- Listeners are told apart by number; a number is never used again. -/
abbrev ListenerId := Nat

/-- Lists under ascending categories. -/
abbrev Table.Ascending (entries : List (TypeId × List ListenerId)) : Prop :=
  entries.Pairwise fun a b => a.1 < b.1

structure Table where
  entries : List (TypeId × List ListenerId)
  ascending : Table.Ascending entries
  deriving DecidableEq

namespace Table

def empty : Table := ⟨[], .nil⟩

instance : Inhabited Table := ⟨empty⟩

def list? (t : TypeId) (table : Table) : Option (List ListenerId) :=
  (table.entries.find? (·.1 == t)).map (·.2)

/-- The entries with one list put in its place. -/
def setEntry (t : TypeId) (list : List ListenerId) :
    List (TypeId × List ListenerId) → List (TypeId × List ListenerId)
  | [] => [(t, list)]
  | (other, held) :: rest =>
    if t < other then (t, list) :: (other, held) :: rest
    else if t = other then (t, list) :: rest
    else (other, held) :: setEntry t list rest

theorem mem_setEntry {t : TypeId} {list : List ListenerId} {entries} {e}
    (h : e ∈ setEntry t list entries) : e.1 = t ∨ e ∈ entries := by
  induction entries with
  | nil => simp_all [setEntry]
  | cons head rest ih =>
    obtain ⟨other, held⟩ := head
    simp only [setEntry] at h
    split at h
    · simp only [List.mem_cons] at h ⊢
      rcases h with rfl | h
      · exact .inl rfl
      · exact .inr h
    · split at h
      · simp only [List.mem_cons] at h ⊢
        rcases h with rfl | h
        · exact .inl rfl
        · exact .inr (.inr h)
      · simp only [List.mem_cons] at h ⊢
        rcases h with rfl | h
        · exact .inr (.inl rfl)
        · exact (ih h).imp id .inr

theorem ascending_setEntry {t : TypeId} {list : List ListenerId} {entries}
    (h : Ascending entries) : Ascending (setEntry t list entries) := by
  induction entries with
  | nil => simp [setEntry, Ascending]
  | cons head rest ih =>
    obtain ⟨other, held⟩ := head
    simp only [Ascending, List.pairwise_cons] at h
    simp only [setEntry]
    split
    · rename_i before
      refine List.pairwise_cons.2 ⟨?_, List.pairwise_cons.2 h⟩
      intro e he
      rcases List.mem_cons.1 he with rfl | he
      · exact before
      · exact UInt32.lt_trans before (h.1 e he)
    · rename_i notBefore
      split
      · rename_i same
        exact List.pairwise_cons.2 ⟨by rw [same]; exact h.1, h.2⟩
      · rename_i other'
        have after : other < t := by
          rcases UInt32.lt_or_lt_of_ne (fun e => other' (congrArg TypeId.mk e)) with l | l
          · exact absurd l notBefore
          · exact l
        refine List.pairwise_cons.2 ⟨?_, ih h.2⟩
        intro e he
        rcases mem_setEntry he with same | he
        · simpa only [same] using after
        · exact h.1 e he

def set (t : TypeId) (list : List ListenerId) (table : Table) : Table :=
  ⟨setEntry t list table.entries, ascending_setEntry table.ascending⟩

theorem ascending_map {f : List ListenerId → List ListenerId} {entries}
    (h : Ascending entries) : Ascending (entries.map fun e => (e.1, f e.2)) := by
  simpa only [Ascending, List.pairwise_map] using h

def map (f : List ListenerId → List ListenerId) (table : Table) : Table :=
  ⟨table.entries.map fun e => (e.1, f e.2), ascending_map table.ascending⟩

/-- The categories that have a list, ascending. -/
def types (table : Table) : List TypeId := table.entries.map (·.1)

def count (t : TypeId) (table : Table) : Nat := ((table.list? t).map List.length).getD 0

def total (table : Table) : Nat := (table.entries.flatMap (·.2)).length

end Table
end EventEngine
