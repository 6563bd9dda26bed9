import EventEngine.Listener.Registry

/-! What the operations of a registry do to its lists and to its open frames. A frame notices
when a living listener leaves the list of its category, and nothing else. -/
namespace EventEngine

namespace Table

variable {t other : TypeId} {table : Table}

theorem find?_setEntry (t other : TypeId) (list : List ListenerId)
    (entries : List (TypeId × List ListenerId)) :
    ((setEntry t list entries).find? (·.1 == other)).map (·.2) =
      if t = other then some list else (entries.find? (·.1 == other)).map (·.2) := by
  induction entries with
  | nil =>
    by_cases same : t = other
    · simp [setEntry, same]
    · simp [setEntry, same]
  | cons head rest ih =>
    obtain ⟨first, held⟩ := head
    simp only [setEntry]
    by_cases same : t = other
    · subst same
      rw [if_pos rfl] at ih ⊢
      split
      · simp
      · split
        · simp
        · rename_i different
          rw [List.find?_cons_of_neg (by simpa using Ne.symm different)]
          exact ih
    · rw [if_neg same] at ih ⊢
      split
      · rw [List.find?_cons_of_neg (by simpa using same)]
      · split
        · rename_i equal
          rw [List.find?_cons_of_neg (by simpa using same),
            List.find?_cons_of_neg (by simpa [← equal] using same)]
        · simp only [List.find?_cons]
          split
          · rfl
          · exact ih

@[simp] theorem list?_set (list : List ListenerId) :
    (table.set t list).list? other = if t = other then some list else table.list? other :=
  find?_setEntry t other list table.entries

@[simp] theorem list?_map (f : List ListenerId → List ListenerId) :
    (table.map f).list? t = (table.list? t).map f := by
  simp only [list?, map, List.find?_map, Option.map_map]
  rfl

@[simp] theorem list?_empty : empty.list? t = none := rfl

/-- A category before all others has no list. -/
theorem find?_of_before {entries : List (TypeId × List ListenerId)}
    (before : ∀ e ∈ entries, t < e.1) : (entries.find? (·.1 == t)).map (·.2) = none := by
  rw [Option.map_eq_none_iff, List.find?_eq_none]
  intro e inside same
  exact UInt32.lt_irrefl _ (beq_iff_eq.mp same ▸ before e inside)

theorem find?_head (t : TypeId) (list : List ListenerId) (rest : List (TypeId × List ListenerId)) :
    (((t, list) :: rest).find? (·.1 == t)).map (·.2) = some list := by
  rw [List.find?_cons_of_pos (by simp), Option.map_some]

theorem find?_behind {first : TypeId} (list : List ListenerId)
    (rest : List (TypeId × List ListenerId)) (different : first ≠ t) :
    (((first, list) :: rest).find? (·.1 == t)).map (·.2) = (rest.find? (·.1 == t)).map (·.2) := by
  rw [List.find?_cons_of_neg (by simpa using different)]

/-- Ascending entries in which the same is found are the same. -/
theorem entries_ext {left right : List (TypeId × List ListenerId)} (ascending : Ascending left)
    (ascending' : Ascending right)
    (same : ∀ t, (left.find? (·.1 == t)).map (·.2) = (right.find? (·.1 == t)).map (·.2)) :
    left = right := by
  induction left generalizing right with
  | nil =>
    cases right with
    | nil => rfl
    | cons head rest => cases (same head.1).trans (find?_head head.1 head.2 rest)
  | cons head rest ih =>
    obtain ⟨t, list⟩ := head
    obtain ⟨later, behind⟩ := List.pairwise_cons.mp ascending
    cases right with
    | nil => cases (same t).symm.trans (find?_head t list rest)
    | cons head' rest' =>
      obtain ⟨u, list'⟩ := head'
      obtain ⟨later', behind'⟩ := List.pairwise_cons.mp ascending'
      have here := (same t).symm.trans (find?_head t list rest)
      have there := (same u).trans (find?_head u list' rest')
      have equal : t = u := by
        refine Decidable.byContradiction fun different => ?_
        rcases UInt32.lt_or_lt_of_ne (fun e => different (congrArg TypeId.mk e)) with less | less
        · rw [find?_behind list' rest' (Ne.symm different),
            find?_of_before fun e inside => UInt32.lt_trans less (later' e inside)] at here
          cases here
        · rw [find?_behind list rest different,
            find?_of_before fun e inside => UInt32.lt_trans less (later e inside)] at there
          cases there
      subst equal
      cases here.symm.trans (find?_head t list' rest')
      congr 1
      refine ih behind behind' fun v => ?_
      by_cases equal : t = v
      · rw [← equal, find?_of_before later, find?_of_before later']
      · rw [← find?_behind list rest equal, ← find?_behind list rest' equal]
        exact same v

/-- A table is determined by the lists of the categories. -/
theorem ext_list? {table' : Table} (same : ∀ t, table.list? t = table'.list? t) :
    table = table' := by
  obtain ⟨entries, ascending⟩ := table
  obtain ⟨entries', ascending'⟩ := table'
  obtain rfl : entries = entries' := entries_ext ascending ascending' same
  rfl

theorem set_set (first list : List ListenerId) : (table.set t first).set t list = table.set t list :=
  ext_list? fun u => by
    simp only [list?_set]
    split <;> rfl

theorem set_of_list? {list : List ListenerId} (held : table.list? t = some list) :
    table.set t list = table :=
  ext_list? fun u => by
    rw [list?_set]
    split
    · rename_i same
      rw [← same, held]
    · rfl

end Table

/-- A frame tells of a listener that it left the list. -/
def Frame.TellsOf (l : ListenerId) (f : Frame) : Prop := f.cleared = true ∨ l ∈ f.removed

namespace Registry

variable {roll : Roll} {r r' : Registry} {t : TypeId} {l : ListenerId}

/-- The listeners registered for a category. -/
def listed (t : TypeId) (r : Registry) : List ListenerId := (r.table.list? t).getD []

theorem contains_iff : r.contains t l = true ↔ l ∈ r.listed t := List.contains_iff_mem

theorem count_eq_zero_iff : r.table.count t = 0 ↔ r.listed t = [] := by
  unfold Table.count listed
  cases r.table.list? t <;> simp

/-- A frame before and after a change. -/
structure Notices (roll : Roll) (r r' : Registry) (f f' : Frame) : Prop where
  id : f'.id = f.id
  type : f'.type = f.type
  remembers : ∀ l, f.TellsOf l → f'.TellsOf l
  departure : ∀ l ∈ r.listed f.type, roll.isAlive l = true →
    (f'.TellsOf l ↔ f.TellsOf l ∨ l ∉ r'.listed f.type)

/-- A change of a registry in which no frame is opened or closed. -/
structure Alters (roll : Roll) (r r' : Registry) : Prop where
  frames : ∃ change : Frame → Frame, r'.frames = r.frames.map change ∧
    ∀ f, Notices roll r r' f (change f)
  nodup : ∀ t, (r.listed t).Nodup → (r'.listed t).Nodup
  listed : ∀ t, ∀ l ∈ r'.listed t, l ∈ r.listed t ∨ roll.isAlive l = true
  nextFrame : r'.nextFrame = r.nextFrame

/-- A frame that stays as it is, while the living listeners stay on the lists. -/
theorem Notices.unmoved {f : Frame}
    (stay : ∀ l ∈ r.listed f.type, roll.isAlive l = true → l ∈ r'.listed f.type) :
    Notices roll r r' f f where
  id := rfl
  type := rfl
  remembers := fun _ told => told
  departure := fun l isListed alive =>
    ⟨.inl, fun told => told.resolve_right (not_not_intro (stay l isListed alive))⟩

theorem Alters.refl (roll : Roll) (r : Registry) : Alters roll r r where
  frames := ⟨id, (List.map_id _).symm, fun _ => .unmoved fun _ isListed _ => isListed⟩
  nodup := fun _ nodup => nodup
  listed := fun _ _ isListed => .inl isListed
  nextFrame := rfl

/-- The list of one category is changed, and the frames of the category with it. -/
theorem alters_list {list : List ListenerId} {change : Frame → Frame}
    (id : ∀ f, (change f).id = f.id) (type : ∀ f, (change f).type = f.type)
    (remembers : ∀ f l, f.TellsOf l → (change f).TellsOf l)
    (departure : ∀ f, ∀ l ∈ r.listed t, roll.isAlive l = true →
      ((change f).TellsOf l ↔ f.TellsOf l ∨ l ∉ list))
    (nodup : (r.listed t).Nodup → list.Nodup)
    (listed : ∀ l ∈ list, l ∈ r.listed t ∨ roll.isAlive l = true) :
    Alters roll r (mapFrames t change { r with table := r.table.set t list }) := by
  have after (u : TypeId) : (mapFrames t change { r with table := r.table.set t list }).listed u =
      if t = u then list else r.listed u := by
    simp only [Registry.listed, mapFrames, Table.list?_set]
    split <;> rfl
  refine ⟨⟨_, rfl, fun f => ?_⟩, fun u before => ?_, fun u l isListed => ?_, rfl⟩
  · by_cases same : f.type = t
    · simp only [if_pos same]
      refine ⟨id f, type f, remembers f, fun l isListed alive => ?_⟩
      rw [after, if_pos same.symm]
      exact departure f l (same ▸ isListed) alive
    · simp only [if_neg same]
      refine .unmoved fun l isListed _ => ?_
      rw [after, if_neg (Ne.symm same)]
      exact isListed
  · rw [after]
    split
    · rename_i same
      exact nodup (same ▸ before)
    · exact before
  · rw [after] at isListed
    split at isListed
    · rename_i same
      exact same ▸ listed l isListed
    · exact .inl isListed

/-- A living listener joins a list. -/
theorem connect_alters (connected : r.connect roll l t = .ok r') : Alters roll r r' := by
  unfold connect at connected
  split at connected
  · cases connected
  · rename_i name named
    split at connected
    · cases connected
    · rename_i absent
      rw [contains_iff] at absent
      cases connected
      refine alters_list (fun _ => rfl) (fun _ => rfl) (fun _ _ told => told) ?_ ?_ ?_
      · intro f k isListed _
        have stays : k ∈ r.listed t ++ [l] := List.mem_append_left _ isListed
        exact ⟨.inl, fun told => told.resolve_right (not_not_intro stays)⟩
      · intro nodup
        refine List.nodup_append.mpr ⟨nodup, List.pairwise_singleton .., ?_⟩
        intro k isListed new isNew equal
        rw [List.mem_singleton.mp isNew] at equal
        exact absent (equal ▸ isListed)
      · intro k isListed
        rcases List.mem_append.mp isListed with old | new
        · exact .inl old
        · rw [List.mem_singleton.mp new, Roll.isAlive, named]
          exact .inr rfl

/-- A listener leaves a list, and the frames of the category are told. -/
theorem disconnect_alters {removed : Nat}
    (disconnected : r.disconnect l t = .ok (removed, r')) : Alters roll r r' := by
  unfold disconnect at disconnected
  split at disconnected
  · cases disconnected
  · rename_i list present
    have before : r.listed t = list := by rw [listed, present, Option.getD_some]
    dsimp only at disconnected
    split at disconnected
    · cases disconnected
      exact .refl roll r
    · cases disconnected
      refine alters_list (fun _ => rfl) (fun _ => rfl) ?_ ?_ ?_ ?_
      · exact fun f k told => told.imp_right fun inside => List.mem_insert_iff.mpr (.inr inside)
      · intro f k isListed _
        rw [before] at isListed
        have gone : k ∉ list.filter (· != l) ↔ k = l := by
          simp [List.mem_filter, isListed]
        rw [gone]
        simp only [Frame.TellsOf, Frame.markRemoved, List.mem_insert_iff]
        rw [or_assoc, or_comm (a := k = l)]
      · exact fun nodup => (before ▸ nodup).filter _
      · exact fun k isListed => .inl (before ▸ (List.mem_filter.mp isListed).1)

/-- A listener that is gone is taken off a list; no frame is told. -/
theorem prune_alters : Alters roll r (r.prune roll t l).2 := by
  unfold prune
  split
  · exact .refl roll r
  · rename_i stale
    have gone : roll.isAlive l = false := by
      cases alive : roll.isAlive l with
      | true => simp [alive] at stale
      | false => rfl
    have unframed (list : List ListenerId) : mapFrames t id { r with table := r.table.set t list } =
        { r with table := r.table.set t list } := by simp [mapFrames]
    rw [← unframed]
    refine alters_list (fun _ => rfl) (fun _ => rfl) (fun _ _ told => told) ?_ ?_ ?_
    · intro f k isListed alive
      have stays : k ∈ (r.listed t).filter (· != l) := by
        refine List.mem_filter.mpr ⟨isListed, bne_iff_ne.mpr fun same => ?_⟩
        rw [same, gone] at alive
        cases alive
      exact ⟨.inl, fun told => told.resolve_right (not_not_intro stays)⟩
    · exact fun nodup => nodup.filter _
    · exact fun k isListed => .inl (List.mem_filter.mp isListed).1

/-- All listeners that are gone are taken off all lists; no frame is told. -/
theorem pruneAll_alters : Alters roll r (r.pruneAll roll).2 := by
  have after (u : TypeId) : (r.pruneAll roll).2.listed u = (r.listed u).filter roll.isAlive := by
    simp only [listed, pruneAll, Table.list?_map]
    cases r.table.list? u <;> rfl
  refine ⟨⟨id, (List.map_id _).symm, fun f => .unmoved fun l isListed alive => ?_⟩,
    fun u nodup => ?_, fun u l isListed => ?_, rfl⟩
  · rw [after]
    exact List.mem_filter.mpr ⟨isListed, alive⟩
  · rw [after]
    exact nodup.filter _
  · rw [after] at isListed
    exact .inl (List.mem_filter.mp isListed).1

/-- All lists are forgotten, and every frame whose list held somebody is told. -/
theorem clear_alters : Alters roll r r.clear := by
  have after (u : TypeId) : r.clear.listed u = [] := rfl
  refine ⟨⟨_, rfl, fun f => ?_⟩, fun u _ => ?_, fun u l isListed => ?_, rfl⟩
  · by_cases vacant : r.table.count f.type = 0
    · rw [if_pos vacant]
      refine .unmoved fun l isListed _ => ?_
      rw [count_eq_zero_iff.mp vacant] at isListed
      cases isListed
    · rw [if_neg vacant]
      refine ⟨rfl, rfl, fun _ _ => .inl rfl, fun l _ _ => ⟨fun _ => .inr ?_, fun _ => .inl rfl⟩⟩
      rw [after]
      exact List.not_mem_nil
  · rw [after]
    exact .nil
  · rw [after] at isListed
    cases isListed

/-! ### Marks -/

/-- All open frames stay, and those of certain categories are marked as changed. -/
def Marks (P : TypeId → Prop) (r r' : Registry) : Prop :=
  ∃ change : Frame → Frame, r'.frames = r.frames.map change ∧ ∀ f, (change f).id = f.id ∧
    (change f).type = f.type ∧ ((change f).mutated = true ↔ f.mutated = true ∨ P f.type)

variable {P Q : TypeId → Prop}

theorem Marks.congr (marks : Marks P r r') (same : ∀ t, Q t ↔ P t) : Marks Q r r' :=
  (funext fun t => propext (same t) : Q = P) ▸ marks

theorem Marks.still (frames : r'.frames = r.frames) (none : ∀ t, ¬ P t) : Marks P r r' :=
  ⟨id, by rw [frames, List.map_id], fun f => ⟨rfl, rfl, by simp [none]⟩⟩

theorem mapFrames_marks {table : Table} {change : Frame → Frame} (id : ∀ f, (change f).id = f.id)
    (type : ∀ f, (change f).type = f.type) (marked : ∀ f, (change f).mutated = true) :
    Marks (· = t) r (mapFrames t change { r with table }) := by
  refine ⟨_, rfl, fun f => ?_⟩
  split
  · rename_i same
    exact ⟨id f, type f, by simp [marked, same]⟩
  · rename_i other
    exact ⟨rfl, rfl, by simp [other]⟩

theorem connect_marks (connected : r.connect roll l t = .ok r') : Marks (· = t) r r' := by
  unfold connect at connected
  split at connected
  · cases connected
  · split at connected
    · cases connected
    · cases connected
      exact mapFrames_marks (fun _ => rfl) (fun _ => rfl) fun _ => rfl

theorem disconnect_marks {removed : Nat} (disconnected : r.disconnect l t = .ok (removed, r')) :
    Marks (fun u => u = t ∧ 0 < removed) r r' := by
  unfold disconnect at disconnected
  split at disconnected
  · cases disconnected
  · dsimp only at disconnected
    split at disconnected
    · cases disconnected
      exact .still rfl fun u both => Nat.lt_irrefl _ both.2
    · rename_i nonzero
      cases disconnected
      refine Marks.congr (mapFrames_marks ?_ ?_ ?_) fun u => and_iff_left (Nat.pos_of_ne_zero nonzero)
      all_goals exact fun _ => rfl

theorem clear_marks : Marks (fun u => r.listed u ≠ []) r r.clear := by
  refine ⟨_, rfl, fun f => ?_⟩
  split
  · rename_i empty
    exact ⟨rfl, rfl, by simp [count_eq_zero_iff.mp empty]⟩
  · rename_i held
    exact ⟨rfl, rfl, by simp [Frame.markCleared, mt count_eq_zero_iff.mpr held]⟩

/-- Housekeeping marks no frame. -/
theorem prune_frames : (r.prune roll t l).2.frames = r.frames := by
  unfold prune
  split <;> rfl

/-! ### Frames -/

theorem removedDuring_iff {frame : UInt64} {f : Frame} (found : r.frame? frame = some f) :
    r.removedDuring frame l = true ↔ f.TellsOf l := by
  simp only [removedDuring, found, Frame.TellsOf, Bool.or_eq_true, List.contains_iff_mem]

/-- The newest frame is the one that is found by its number. -/
theorem removedDuring_newest {f : Frame} {rest : List Frame} (newest : r.frames = f :: rest) :
    r.removedDuring f.id l = true ↔ f.TellsOf l :=
  removedDuring_iff (by simp only [frame?, newest, List.find?_cons, beq_self_eq_true])

theorem endDispatch_newest {f : Frame} {rest : List Frame} (newest : r.frames = f :: rest) :
    (r.endDispatch f.id).2 = { r with frames := rest } := by
  simp only [endDispatch, newest, List.eraseP_cons, beq_self_eq_true, cond_true]

end Registry
end EventEngine
