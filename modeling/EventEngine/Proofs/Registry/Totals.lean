import EventEngine.Proofs.Registry.Lists

/-! How many registrations there are. A connect makes one more, and whatever takes listeners off
lists tells how many it took. -/
namespace EventEngine

namespace Table

variable {t : TypeId} {table : Table}

theorem length_setEntry {list : List ListenerId} {entries : List (TypeId × List ListenerId)}
    (ascending : Ascending entries) :
    ((setEntry t list entries).flatMap (·.2)).length +
        (((entries.find? (·.1 == t)).map (·.2)).getD []).length =
      (entries.flatMap (·.2)).length + list.length := by
  induction entries with
  | nil => simp [setEntry]
  | cons head rest ih =>
    obtain ⟨first, held⟩ := head
    obtain ⟨later, behind⟩ := List.pairwise_cons.mp ascending
    simp only [setEntry]
    split
    · rename_i before
      have missing : ∀ e ∈ (first, held) :: rest, t < e.1 := by
        intro e inside
        rcases List.mem_cons.mp inside with rfl | inside
        · exact before
        · exact UInt32.lt_trans before (later e inside)
      rw [find?_of_before missing]
      simp only [List.flatMap_cons, List.length_append, Option.getD_none, List.length_nil]
      omega
    · split
      · rename_i same
        rw [same, find?_head]
        simp only [List.flatMap_cons, List.length_append, Option.getD_some]
        omega
      · rename_i different
        have := ih behind
        rw [find?_behind held rest (Ne.symm different)]
        simp only [List.flatMap_cons, List.length_append]
        omega

/-- A list put in the place of another one changes the total by the difference. -/
theorem total_set (t : TypeId) (table : Table) (list : List ListenerId) :
    (table.set t list).total + ((table.list? t).getD []).length = table.total + list.length :=
  length_setEntry table.ascending

theorem total_map_le {f : List ListenerId → List ListenerId}
    (shorter : ∀ list, (f list).length ≤ list.length) : (table.map f).total ≤ table.total := by
  obtain ⟨entries, ascending⟩ := table
  simp only [total, map]
  clear ascending
  induction entries with
  | nil => exact Nat.le_refl _
  | cons head rest ih =>
    simp only [List.map_cons, List.flatMap_cons, List.length_append]
    exact Nat.add_le_add (shorter head.2) ih

end Table

namespace Registry

variable {roll : Roll} {r r' : Registry} {t : TypeId} {l : ListenerId}

theorem connect_total (connected : r.connect roll l t = .ok r') :
    r'.table.total = r.table.total + 1 := by
  unfold connect at connected
  split at connected
  · cases connected
  · split at connected
    · cases connected
    · cases connected
      have := Table.total_set t r.table ((r.table.list? t).getD [] ++ [l])
      simp only [List.length_append, List.length_singleton] at this
      simp only [mapFrames]
      omega

/-- Taking a listener off a list that it is on once leaves one place less. -/
theorem total_set_filter (nodup : (r.listed t).Nodup) (inside : l ∈ r.listed t) :
    r.table.total = (r.table.set t ((r.listed t).filter (· != l))).total + 1 := by
  have shorter : ((r.listed t).filter (· != l)).length + 1 = (r.listed t).length := by
    rw [← nodup.erase_eq_filter, List.length_erase_of_mem inside]
    exact Nat.succ_pred (Nat.ne_of_gt (List.length_pos_of_mem inside))
  have replaced := Table.total_set t r.table ((r.listed t).filter (· != l))
  have before : (r.table.list? t).getD [] = r.listed t := rfl
  rw [before] at replaced
  omega

/-- A disconnect takes as many listeners off as it says, which is at most one. -/
theorem disconnect_total {removed : Nat} (nodup : (r.listed t).Nodup)
    (disconnected : r.disconnect l t = .ok (removed, r')) :
    r.table.total = r'.table.total + removed ∧ removed ≤ 1 := by
  unfold disconnect at disconnected
  split at disconnected
  · cases disconnected
  · rename_i list held
    have listed : r.listed t = list := by rw [Registry.listed, held, Option.getD_some]
    rw [listed] at nodup
    dsimp only at disconnected
    split at disconnected
    · cases disconnected
      exact ⟨rfl, Nat.zero_le _⟩
    · rename_i some
      have inside : l ∈ list := List.count_pos_iff.mp (Nat.pos_of_ne_zero some)
      have one : list.count l = 1 := by rw [nodup.count, if_pos inside]
      cases disconnected
      have less := total_set_filter (l := l) (listed ▸ nodup) (listed ▸ inside)
      rw [listed] at less
      exact ⟨by rw [one]; exact less, Nat.le_of_eq one⟩

theorem prune_total (roll : Roll) (l : ListenerId) (nodup : (r.listed t).Nodup) :
    r.table.total = (r.prune roll t l).2.table.total + (r.prune roll t l).1.toNat := by
  unfold prune
  split
  · rfl
  · rename_i stale
    simp only [Bool.or_eq_true, Bool.not_eq_true', not_or, Bool.not_eq_false] at stale
    exact total_set_filter nodup (contains_iff.mp stale.2)

theorem pruneAll_total :
    r.table.total = (r.pruneAll roll).2.table.total + (r.pruneAll roll).1 := by
  have fewer : (r.table.map (·.filter roll.isAlive)).total ≤ r.table.total :=
    Table.total_map_le fun list => List.length_filter_le ..
  simp only [pruneAll]
  omega

end Registry
end EventEngine
