import EventEngine.Proofs.Machine.Beside
import EventEngine.Proofs.Dispatch.Balance

/-! Registries that hold the same but for listeners that are gone. Whatever a manager is asked for,
they go on resembling each other, and living listeners find no difference between them. -/
namespace EventEngine

open Manager (Tally)

/-- What is left of a list without the listeners that are gone. -/
abbrev Remaining (gone : ListenerId → Bool) (list : List ListenerId) : List ListenerId :=
  list.filter (!gone ·)

/-- Who is gone already is left out later, too. -/
theorem remaining_remaining {gone later : ListenerId → Bool}
    (still : ∀ l, gone l = true → later l = true) (list : List ListenerId) :
    Remaining later (Remaining gone list) = Remaining later list := by
  rw [Remaining, Remaining, List.filter_filter]
  refine List.filter_congr fun l _ => ?_
  cases left : gone l with
  | true => simp [still l left]
  | false => simp

namespace Registry

variable {gone later : ListenerId → Bool} {roll : Roll} {r r' s s' : Registry} {t : TypeId}
  {l : ListenerId} {change : TypeId → Option (List ListenerId) → Option (List ListenerId)}

/-- The list of each category is changed, and no dispatch begins or ends. -/
structure Relists (change : TypeId → Option (List ListenerId) → Option (List ListenerId))
    (r r' : Registry) : Prop where
  lists : ∀ t, r'.table.list? t = change t (r.table.list? t)
  openFrames : r'.openFrames = r.openFrames
  nextFrame : r'.nextFrame = r.nextFrame

theorem openFrames_map {f : Frame → Frame} (id : ∀ frame, (f frame).id = frame.id)
    (type : ∀ frame, (f frame).type = frame.type) (frames : List Frame) :
    (frames.map f).map (fun frame => (frame.id, frame.type)) =
      frames.map fun frame => (frame.id, frame.type) := by
  rw [List.map_map]
  refine List.map_congr_left fun frame _ => ?_
  rw [Function.comp_apply, id, type]

/-- The list of one category is changed, and the frames of the category with it. -/
theorem relists_list {list : List ListenerId} {f : Frame → Frame}
    (id : ∀ frame, (f frame).id = frame.id) (type : ∀ frame, (f frame).type = frame.type) :
    Relists (fun u held => if t = u then some list else held) r
      (mapFrames t f { r with table := r.table.set t list }) where
  lists := fun u => Table.list?_set list
  openFrames := by
    refine openFrames_map (fun frame => ?_) (fun frame => ?_) r.frames
    · split
      · exact id frame
      · rfl
    · split
      · exact type frame
      · rfl
  nextFrame := rfl

/-- Only what becomes of the lists that there are counts. -/
theorem Relists.congr {other : TypeId → Option (List ListenerId) → Option (List ListenerId)}
    (relists : Relists change r r')
    (same : ∀ t, change t (r.table.list? t) = other t (r.table.list? t)) : Relists other r r' :=
  ⟨fun t => (relists.lists t).trans (same t), relists.openFrames, relists.nextFrame⟩

theorem connect_relists (connected : r.connect roll l t = .ok r') :
    Relists (fun u held => if t = u then some (held.getD [] ++ [l]) else held) r r' := by
  unfold connect at connected
  split at connected
  · cases connected
  · split at connected
    · cases connected
    · cases connected
      refine (relists_list (f := Frame.markMutated) (fun _ => rfl) (fun _ => rfl)).congr fun u => ?_
      split
      · rename_i same
        rw [same]
      · rfl

theorem connect_ok {name : String} (named : roll l = some name) (absent : r.contains t l = false) :
    r.connect roll l t = .ok (mapFrames t Frame.markMutated
      { r with table := r.table.set t ((r.table.list? t).getD [] ++ [l]) }) := by
  simp only [connect, named, absent, Bool.false_eq_true, if_false]

theorem disconnect_relists {removed : Nat} (disconnected : r.disconnect l t = .ok (removed, r')) :
    Relists (fun u held => if t = u then held.map (·.filter (· != l)) else held) r r' := by
  unfold disconnect at disconnected
  split at disconnected
  · cases disconnected
  · rename_i list present
    dsimp only at disconnected
    split at disconnected
    · rename_i absent
      cases disconnected
      refine ⟨fun u => ?_, rfl, rfl⟩
      split
      · rename_i same
        rw [← same, present, Option.map_some, List.filter_eq_self.mpr]
        intro k inside
        rw [List.count_eq_zero] at absent
        exact bne_iff_ne.mpr fun equal => absent (equal ▸ inside)
      · rfl
    · cases disconnected
      refine (relists_list (f := Frame.markRemoved l) (fun _ => rfl) (fun _ => rfl)).congr fun u => ?_
      split
      · rename_i same
        rw [← same, present, Option.map_some]
      · rfl

theorem disconnect_ok {list : List ListenerId} (held : r.table.list? t = some list) :
    ∃ removed r', r.disconnect l t = .ok (removed, r') := by
  simp only [disconnect, held]
  split <;> exact ⟨_, _, rfl⟩

theorem clear_relists : Relists (fun _ _ => none) r r.clear where
  lists := fun _ => rfl
  openFrames := by
    refine openFrames_map (fun frame => ?_) (fun frame => ?_) r.frames <;> split <;> rfl
  nextFrame := rfl

theorem pruneAll_relists :
    Relists (fun _ held => held.map (·.filter roll.isAlive)) r (r.pruneAll roll).2 where
  lists := fun _ => Table.list?_map _
  openFrames := rfl
  nextFrame := rfl

theorem prune_relists :
    Relists (fun u held =>
      if t = u ∧ roll.isAlive l = false then held.map (·.filter (· != l)) else held)
      r (r.prune roll t l).2 := by
  unfold prune
  split
  · rename_i kept
    refine ⟨fun u => ?_, rfl, rfl⟩
    split
    · rename_i gone
      obtain ⟨rfl, dead⟩ := gone
      cases held : r.table.list? t with
      | none => rfl
      | some list =>
        have absent : l ∉ list := by
          simpa [dead, contains, held] using kept
        rw [Option.map_some, List.filter_eq_self.mpr]
        exact fun k inside => bne_iff_ne.mpr fun same => absent (same ▸ inside)
    · rfl
  · rename_i stale
    simp only [Bool.or_eq_true, Bool.not_eq_true', not_or, Bool.not_eq_true, Bool.not_eq_false] at stale
    refine ⟨fun u => ?_, rfl, rfl⟩
    rw [Table.list?_set]
    by_cases same : t = u
    · subst same
      obtain ⟨dead, inside⟩ := stale
      rw [if_pos rfl, if_pos ⟨rfl, dead⟩]
      cases held : r.table.list? t with
      | none => simp [contains, held] at inside
      | some list => rfl
    · rw [if_neg same, if_neg fun both => same both.1]

/-- Two registries have lists for the same categories, which hold the same listeners but for those
that are gone, and the same dispatches are under way. -/
structure Resembles (gone : ListenerId → Bool) (r s : Registry) : Prop where
  lists : ∀ t, (r.table.list? t).map (Remaining gone) = (s.table.list? t).map (Remaining gone)
  openFrames : r.openFrames = s.openFrames
  nextFrame : r.nextFrame = s.nextFrame

namespace Resembles

theorem refl (gone : ListenerId → Bool) (r : Registry) : Resembles gone r r :=
  ⟨fun _ => rfl, rfl, rfl⟩

theorem symm (resembles : Resembles gone r s) : Resembles gone s r :=
  ⟨fun t => (resembles.lists t).symm, resembles.openFrames.symm, resembles.nextFrame.symm⟩

theorem trans (first : Resembles gone r s) (second : Resembles gone s s') : Resembles gone r s' :=
  ⟨fun t => (first.lists t).trans (second.lists t), first.openFrames.trans second.openFrames,
    first.nextFrame.trans second.nextFrame⟩

/-- The more listeners are gone, the less is compared. -/
theorem mono (resembles : Resembles gone r s) (still : ∀ l, gone l = true → later l = true) :
    Resembles later r s := by
  refine ⟨fun t => ?_, resembles.openFrames, resembles.nextFrame⟩
  have again (held : Option (List ListenerId)) :
      held.map (Remaining later) = (held.map (Remaining gone)).map (Remaining later) := by
    rw [Option.map_map]
    exact congrArg (held.map ·) (funext fun list => (remaining_remaining still list).symm)
  rw [again, resembles.lists, ← again]

/-- A change that leaves out nobody because of those that are gone happens to both. -/
theorem relist (resembles : Resembles gone r s) (left : Relists change r r')
    (right : Relists change s s')
    (commutes : ∀ t held, (change t held).map (Remaining gone) =
      change t (held.map (Remaining gone))) : Resembles gone r' s' where
  lists := fun t => by
    rw [left.lists, right.lists, commutes, commutes, resembles.lists]
  openFrames := by rw [left.openFrames, right.openFrames, resembles.openFrames]
  nextFrame := by rw [left.nextFrame, right.nextFrame, resembles.nextFrame]

/-- A change that only those that are gone are concerned with is none. -/
theorem of_relists (relists : Relists change r r')
    (stays : ∀ t, (change t (r.table.list? t)).map (Remaining gone) =
      (r.table.list? t).map (Remaining gone)) : Resembles gone r r' where
  lists := fun t => by rw [relists.lists, stays]
  openFrames := relists.openFrames.symm
  nextFrame := relists.nextFrame.symm

theorem rel (resembles : Resembles gone r s) (t : TypeId) :
    Option.Rel (fun list list' => Remaining gone list = Remaining gone list')
      (r.table.list? t) (s.table.list? t) := by
  have lists := resembles.lists t
  cases left : r.table.list? t <;> cases right : s.table.list? t <;> rw [left, right] at lists
  · exact .none
  · cases lists
  · cases lists
  · exact .some (Option.some.inj lists)

theorem remaining (resembles : Resembles gone r s) (t : TypeId) :
    Remaining gone (r.listed t) = Remaining gone (s.listed t) := by
  have rel := resembles.rel t
  unfold listed
  generalize r.table.list? t = left at rel ⊢
  generalize s.table.list? t = right at rel ⊢
  cases rel with
  | none => rfl
  | some same => exact same

theorem mem_listed (resembles : Resembles gone r s) (present : gone l = false) :
    l ∈ r.listed t ↔ l ∈ s.listed t := by
  have same := congrArg (l ∈ ·) (resembles.remaining t)
  simpa [Remaining, List.mem_filter, present] using same

theorem contains (resembles : Resembles gone r s) (present : gone l = false) :
    r.contains t l = s.contains t l := by
  rw [Bool.eq_iff_iff, contains_iff, contains_iff, resembles.mem_listed present]

/-- Connecting a listener succeeds in both, or fails in both for the same reason. -/
theorem connect (resembles : Resembles gone r s)
    (present : ∀ l, roll.isAlive l = true → gone l = false) :
    (∃ e, r.connect roll l t = .error e ∧ s.connect roll l t = .error e) ∨
      ∃ r' s', r.connect roll l t = .ok r' ∧ s.connect roll l t = .ok s' ∧
        Resembles gone r' s' := by
  cases named : roll l with
  | none => exact .inl ⟨.deadListener t, by rw [Registry.connect, named], by rw [Registry.connect, named]⟩
  | some name =>
    have living : roll.isAlive l = true := by rw [Roll.isAlive, named]; rfl
    have same := resembles.contains (t := t) (present l living)
    cases double : r.contains t l with
    | true =>
      refine .inl ⟨.alreadyConnected name t, ?_, ?_⟩
      · simp only [Registry.connect, named, double, if_true]
      · simp only [Registry.connect, named, ← same, double, if_true]
    | false =>
      have left := (connect_ok named double)
      have right := (connect_ok named (same ▸ double))
      refine .inr ⟨_, _, left, right, resembles.relist (connect_relists left) (connect_relists right) ?_⟩
      intro u held
      split
      · cases held <;> simp [present l living]
      · rfl

/-- Disconnecting a listener succeeds in both, perhaps with different numbers of places that it
held, or fails in both for the same reason. -/
theorem disconnect (resembles : Resembles gone r s) :
    (∃ e, r.disconnect l t = .error e ∧ s.disconnect l t = .error e) ∨
      ∃ k k' r' s', r.disconnect l t = .ok (k, r') ∧ s.disconnect l t = .ok (k', s') ∧
        Resembles gone r' s' := by
  have rel := resembles.rel t
  cases held : r.table.list? t with
  | none =>
    cases held' : s.table.list? t with
    | some list' => rw [held, held'] at rel; cases rel
    | none =>
      exact .inl ⟨.unknownEventType t, by rw [Registry.disconnect, held],
        by rw [Registry.disconnect, held']⟩
  | some list =>
    cases held' : s.table.list? t with
    | none => rw [held, held'] at rel; cases rel
    | some list' =>
      obtain ⟨k, r', left⟩ := disconnect_ok (l := l) held
      obtain ⟨k', s', right⟩ := disconnect_ok (l := l) held'
      refine .inr ⟨k, k', r', s', left, right,
        resembles.relist (disconnect_relists left) (disconnect_relists right) fun u held => ?_⟩
      split
      · cases held <;> simp [List.filter_filter, Bool.and_comm]
      · rfl

theorem connect_result (resembles : Resembles gone r s)
    (present : ∀ l, roll.isAlive l = true → gone l = false) :
    (r.connect roll l t).map (fun _ => ()) = (s.connect roll l t).map fun _ => () := by
  rcases resembles.connect (l := l) (t := t) present with ⟨e, left, right⟩ | ⟨_, _, left, right, -⟩
  · rw [left, right]
  · rw [left, right]
    rfl

theorem disconnect_result (resembles : Resembles gone r s) :
    ((r.disconnect l t).map Prod.fst).map (fun _ => ()) =
      ((s.disconnect l t).map Prod.fst).map fun _ => () := by
  rcases resembles.disconnect (l := l) (t := t) with
    ⟨e, left, right⟩ | ⟨_, _, _, _, left, right, -⟩
  · rw [left, right]
  · rw [left, right]
    rfl

theorem clear (resembles : Resembles gone r s) : Resembles gone r.clear s.clear :=
  resembles.relist clear_relists clear_relists fun _ _ => rfl

theorem pruneAll (resembles : Resembles gone r s) (roll : Roll) :
    Resembles gone (r.pruneAll roll).2 (s.pruneAll roll).2 :=
  resembles.relist pruneAll_relists pruneAll_relists fun _ held => by
    cases held <;> simp [List.filter_filter, Bool.and_comm]

theorem beginDispatch (resembles : Resembles gone r s) (t : TypeId) :
    Resembles gone (r.beginDispatch t).2 (s.beginDispatch t).2 where
  lists := resembles.lists
  openFrames := by
    have frames := resembles.openFrames
    simp only [Registry.openFrames, Registry.beginDispatch, List.map_cons, resembles.nextFrame] at frames ⊢
    rw [frames]
  nextFrame := congrArg (· + 1) resembles.nextFrame

theorem endDispatch (resembles : Resembles gone r s) (frame : UInt64) :
    Resembles gone (r.endDispatch frame).2 (s.endDispatch frame).2 where
  lists := resembles.lists
  openFrames := by
    have closed (r : Registry) : (r.endDispatch frame).2.openFrames =
        r.openFrames.eraseP (·.1 == frame) := by
      simp only [Registry.openFrames, Registry.endDispatch, List.eraseP_map]
      rfl
    rw [closed, closed, resembles.openFrames]
  nextFrame := resembles.nextFrame

/-- A listener that is gone is taken off one list, which makes no difference. -/
theorem prune (absent : gone l = true) (roll : Roll) (t : TypeId) (r : Registry) :
    Resembles gone r (r.prune roll t l).2 := by
  unfold Registry.prune
  split
  · exact refl gone r
  · rename_i stale
    have held : l ∈ r.listed t := by
      rw [← contains_iff]
      simp only [Bool.or_eq_true, Bool.not_eq_true', not_or, Bool.not_eq_false] at stale
      exact stale.2
    refine ⟨fun u => ?_, rfl, rfl⟩
    simp only [Table.list?_set]
    split
    · rename_i same
      rw [← same]
      unfold listed at held
      cases found : r.table.list? t with
      | none => rw [found] at held; cases held
      | some list =>
        simp only [Option.getD_some, Option.map_some, Remaining, List.filter_filter]
        refine congrArg some (List.filter_congr fun k _ => ?_)
        by_cases equal : k = l
        · simp [equal, absent]
        · simp [equal]
    · rfl

/-- All listeners that are gone are taken off all lists, which makes no difference. -/
theorem prunes (present : ∀ t, ∀ l ∈ r.listed t, gone l = !roll.isAlive l) :
    Resembles gone r (r.pruneAll roll).2 := by
  refine of_relists pruneAll_relists fun t => ?_
  have inside := present t
  unfold listed at inside
  cases held : r.table.list? t with
  | none => rfl
  | some list =>
    rw [held] at inside
    simp only [Option.map_some, Remaining, List.filter_filter]
    refine congrArg some (List.filter_congr fun l inList => ?_)
    rw [inside l inList, Bool.not_not, Bool.and_self]

end Resembles
end Registry

/-- Two managers whose registries resemble each other. What they have counted may differ. -/
structure Manager.Resembles (gone : ListenerId → Bool) (x y : Manager) : Prop where
  registry : x.registry.Resembles gone y.registry
  queue : x.queue = y.queue
  clock : x.clock = y.clock
  holders : x.holders = y.holders

namespace Manager.Resembles

variable {gone later : ListenerId → Bool} {roll : Roll} {x y z : Manager}

theorem refl (gone : ListenerId → Bool) (x : Manager) : Resembles gone x x :=
  ⟨.refl gone _, rfl, rfl, rfl⟩

theorem symm (resembles : Resembles gone x y) : Resembles gone y x :=
  ⟨resembles.registry.symm, resembles.queue.symm, resembles.clock.symm, resembles.holders.symm⟩

theorem trans (first : Resembles gone x y) (second : Resembles gone y z) : Resembles gone x z :=
  ⟨first.registry.trans second.registry, first.queue.trans second.queue,
    first.clock.trans second.clock, first.holders.trans second.holders⟩

theorem mono (resembles : Resembles gone x y) (still : ∀ l, gone l = true → later l = true) :
    Resembles later x y :=
  ⟨resembles.registry.mono still, resembles.queue, resembles.clock, resembles.holders⟩

theorem serve (resembles : Resembles gone x y)
    (present : ∀ l, roll.isAlive l = true → gone l = false) (request : Request) :
    Resembles gone (request.serve roll x) (request.serve roll y) := by
  obtain ⟨registry, queue, clock, holders⟩ := resembles
  cases request with
  | connect l t =>
    simp only [Request.serve, Manager.connect]
    rcases registry.connect (l := l) (t := t) present with
      ⟨e, left, right⟩ | ⟨r', s', left, right, after⟩
    · rw [left, right]
      exact ⟨registry, queue, clock, holders⟩
    · rw [left, right]
      exact ⟨after, queue, clock, holders⟩
  | disconnect l t =>
    simp only [Request.serve, Manager.disconnect]
    rcases registry.disconnect (l := l) (t := t) with
      ⟨e, left, right⟩ | ⟨k, k', r', s', left, right, after⟩
    · rw [left, right]
      exact ⟨registry, queue, clock, holders⟩
    · rw [left, right]
      exact ⟨after, queue, clock, holders⟩
  | clearListeners => exact ⟨registry.clear, queue, clock, holders⟩
  | pruneStale => exact ⟨registry.pruneAll roll, queue, clock, holders⟩
  | hold => exact ⟨registry, queue, clock, congrArg (· + 1) holders⟩
  | enqueue e => exact ⟨registry, congrArg (·.push e) queue, clock, holders⟩
  | dequeue e all => exact ⟨registry, congrArg (fun q => (q.dequeue e all).2) queue, clock, holders⟩
  | clearQueue => exact ⟨registry, congrArg (·.clear) queue, clock, holders⟩
  | readClock => exact ⟨registry, queue, congrArg (·.read.2) clock, holders⟩
  | advance step => exact ⟨registry, queue, congrArg (·.advance step) clock, holders⟩
  | setClock target => exact ⟨registry, queue, congrArg (·.set target) clock, holders⟩

/-- Drains look at the queue and at the clock only. -/
theorem beginDrain (resembles : Resembles gone x y) :
    x.beginDrain.1 = y.beginDrain.1 ∧ Resembles gone x.beginDrain.2 y.beginDrain.2 := by
  obtain ⟨registry, queue, clock, holders⟩ := resembles
  simp only [Manager.beginDrain, Manager.readClock, ← queue, ← clock]
  cases x.queue.beginDrain with
  | none => exact ⟨rfl, registry, queue, clock, holders⟩
  | some begun => exact ⟨rfl, registry, rfl, rfl, holders⟩

theorem readClock (resembles : Resembles gone x y) :
    x.readClock.1 = y.readClock.1 ∧ Resembles gone x.readClock.2 y.readClock.2 :=
  ⟨congrArg (·.read.1) resembles.clock, resembles.registry, resembles.queue,
    congrArg (·.read.2) resembles.clock, resembles.holders⟩

theorem takeDue (resembles : Resembles gone x y) (budget : Option Duration) (started : Timestamp) :
    (x.takeDue budget started).1 = (y.takeDue budget started).1 ∧
      Resembles gone (x.takeDue budget started).2 (y.takeDue budget started).2 := by
  obtain ⟨reading, next⟩ := resembles.readClock
  by_cases late : World.overBudget budget started x.readClock.1 = true
  · rw [takeDue_late late, takeDue_late (reading ▸ late)]
    exact ⟨rfl, next⟩
  · cases popped : x.readClock.2.queue.popDue x.readClock.1 with
    | none =>
      have popped' : y.readClock.2.queue.popDue y.readClock.1 = none := by
        rw [← next.queue, ← reading, popped]
      rw [takeDue_blocked late popped, takeDue_blocked (reading ▸ late) popped']
      exact ⟨rfl, next⟩
    | some taken =>
      obtain ⟨e, queue⟩ := taken
      have popped' : y.readClock.2.queue.popDue y.readClock.1 = some (e, queue) := by
        rw [← next.queue, ← reading, popped]
      rw [takeDue_taken late popped, takeDue_taken (reading ▸ late) popped']
      exact ⟨rfl, next.registry, rfl, next.clock, next.holders⟩

theorem endDrain (resembles : Resembles gone x y) : Resembles gone x.endDrain y.endDrain :=
  ⟨resembles.registry, congrArg (·.finishDrain.2) resembles.queue, resembles.clock,
    resembles.holders⟩

theorem finishDrain (resembles : Resembles gone x y) :
    x.finishDrain.1 = y.finishDrain.1 ∧ Resembles gone x.finishDrain.2 y.finishDrain.2 :=
  ⟨congrArg (·.finishDrain.1) resembles.queue, resembles.endDrain.registry,
    resembles.endDrain.queue, resembles.clock, resembles.holders⟩

/-- Two walks that have the same listeners ahead but for those that are gone. -/
abbrev AheadAlike (gone : ListenerId → Bool) (p q : List ListenerId × Tally) : Prop :=
  Remaining gone p.1 = Remaining gone q.1

/-- Listeners that are gone are seen by nobody but those that count. -/
theorem unseen (present : ∀ l, roll.isAlive l = true → gone l = false) :
    Unseen roll (fun _ => True) (fun _ x y => Resembles gone x y) (AheadAlike gone) where
  holders := fun resembles => resembles.holders
  fresh := fun _ => .refl gone _
  request := fun request resembles => resembles.serve present request
  release := fun ⟨registry, queue, clock, holders⟩ =>
    ⟨registry, queue, clock, congrArg (· - 1) holders⟩
  nextFrame := fun resembles => resembles.registry.nextFrame
  lists := fun t resembles => resembles.registry.rel t
  unheard := fun ⟨registry, queue, clock, holders⟩ => ⟨registry, queue, clock, holders⟩
  opened := fun t ⟨registry, queue, clock, holders⟩ =>
    ⟨registry.beginDispatch t, queue, clock, holders⟩
  closed := fun frame ⟨registry, queue, clock, holders⟩ =>
    ⟨registry.endDispatch frame, queue, clock, holders⟩
  concluded := fun frame _ _ ⟨registry, queue, clock, holders⟩ =>
    ⟨registry.endDispatch frame, queue, clock, holders⟩
  begun := fun _ resembles => resembles.beginDrain
  taken := fun budget started _ resembles => resembles.takeDue budget started
  ended := fun _ resembles => resembles.endDrain
  finished := fun _ resembles => resembles.finishDrain

end Manager.Resembles
end EventEngine
