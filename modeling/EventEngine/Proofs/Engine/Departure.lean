import EventEngine.Proofs.Dispatch.Lives
import EventEngine.Proofs.Dispatch.Walk
import EventEngine.Proofs.Engine.Ticks
import EventEngine.Proofs.Machine.Tasks
import EventEngine.Proofs.Registry.History

/-! What an engine leaves behind. When it is dropped it takes its listeners off the lists that they
joined when it was built, so every list is as it was before; but the lists that were made for it
stay, and a validation reports them as empty. -/
namespace EventEngine

open Manager (Issue Tally Task)

/-! ### Complaints about lists -/

namespace Table

variable {t : TypeId} {list : List ListenerId}

theorem find?_of_mem {entries : List (TypeId × List ListenerId)} (ascending : Ascending entries)
    (inside : (t, list) ∈ entries) : (entries.find? (·.1 == t)).map (·.2) = some list := by
  induction entries with
  | nil => cases inside
  | cons head rest ih =>
    obtain ⟨later, behind⟩ := List.pairwise_cons.mp ascending
    rcases List.mem_cons.mp inside with rfl | inside
    · exact find?_head t list rest
    · have different : head.1 ≠ t := fun same => UInt32.lt_irrefl _ (same ▸ later _ inside)
      exact (find?_behind head.2 rest different).trans (ih behind inside)

/-- The entries of a table are its lists. -/
theorem mem_entries_iff {table : Table} :
    (t, list) ∈ table.entries ↔ table.list? t = some list := by
  refine ⟨find?_of_mem table.ascending, fun held => ?_⟩
  obtain ⟨⟨u, _⟩, found, rfl⟩ := Option.map_eq_some_iff.mp held
  obtain rfl : u = t := by simpa using List.find?_some found
  exact List.mem_of_find?_eq_some found

/-- A listener joins a list at its end. -/
def append (t : TypeId) (l : ListenerId) (table : Table) : Table :=
  table.set t ((table.list? t).getD [] ++ [l])

theorem list?_append {u : TypeId} {table : Table} {l : ListenerId} (different : t ≠ u) :
    (table.append t l).list? u = table.list? u := by
  rw [append, list?_set, if_neg different]

theorem mem_append {u : TypeId} {table : Table} {l k : ListenerId}
    (inside : k ∈ (table.list? u).getD []) : k ∈ ((table.append t l).list? u).getD [] := by
  rw [append, list?_set]
  split
  · rename_i same
    exact List.mem_append_left _ (same ▸ inside)
  · exact inside

end Table

namespace Manager

variable {x : Manager} {roll roll' : Roll} {issue : Issue}

theorem mem_validate_iff (listed : ∀ count, issue ≠ .backlog count) :
    issue ∈ x.validate roll ↔
      ∃ t list, x.registry.table.list? t = some list ∧ issue ∈ listIssues roll t list := by
  have others : issue ∉ if queueBacklog < x.queue.length then [Issue.backlog x.queue.length]
      else [] := by
    split
    · simpa using listed _
    · exact List.not_mem_nil
  simp only [validate, List.mem_append, or_iff_left others, List.mem_flatMap, Prod.exists,
    Table.mem_entries_iff]

theorem listIssues_congr {t : TypeId} {list : List ListenerId}
    (alike : ∀ l ∈ list, roll.isAlive l = roll'.isAlive l) :
    listIssues roll t list = listIssues roll' t list := by
  have stale : list.countP (!roll.isAlive ·) = list.countP (!roll'.isAlive ·) :=
    List.countP_congr fun l inside => by rw [alike l inside]
  simp only [listIssues, stale]

/-- Where lists have been made that are empty, these are reported besides. -/
theorem mem_validate_of_made {y : Manager} {made : List TypeId}
    (listed : ∀ count, issue ≠ .backlog count)
    (lists : ∀ t, y.registry.table.list? t =
      if t ∈ made then some (x.registry.listed t) else x.registry.table.list? t)
    (alike : ∀ t, ∀ l ∈ x.registry.listed t, roll'.isAlive l = roll.isAlive l) :
    issue ∈ y.validate roll' ↔ issue ∈ x.validate roll ∨
      ∃ t ∈ made, x.registry.table.list? t = none ∧ issue = .noListeners t := by
  have held_iff {t : TypeId} {list : List ListenerId} : y.registry.table.list? t = some list ↔
      x.registry.table.list? t = some list ∨
        t ∈ made ∧ x.registry.table.list? t = none ∧ list = [] := by
    rw [lists, Registry.listed]
    cases x.registry.table.list? t with
    | none => simp [eq_comm]
    | some held => simp
  have same {t : TypeId} {list : List ListenerId} (held : x.registry.table.list? t = some list) :
      listIssues roll' t list = listIssues roll t list := by
    refine listIssues_congr fun l inside => alike t l ?_
    rwa [Registry.listed, held, Option.getD_some]
  rw [mem_validate_iff listed, mem_validate_iff listed]
  constructor
  · rintro ⟨t, list, held, reported⟩
    rcases held_iff.mp held with before | ⟨inside, none, rfl⟩
    · exact .inl ⟨t, list, before, same before ▸ reported⟩
    · exact .inr ⟨t, inside, none, List.mem_singleton.mp reported⟩
  · rintro (⟨t, list, before, reported⟩ | ⟨t, inside, none, rfl⟩)
    · exact ⟨t, list, held_iff.mpr (.inl before), same before ▸ reported⟩
    · exact ⟨t, [], held_iff.mpr (.inr ⟨inside, none, rfl⟩), List.mem_singleton_self _⟩

/-! ### Joining and leaving a list -/

variable {l : ListenerId} {t : TypeId}

theorem connect_table (alive : roll.isAlive l = true) (absent : l ∉ x.registry.listed t) :
    (x.connect roll l t).2.registry.table =
      x.registry.table.set t (x.registry.listed t ++ [l]) := by
  have connected := Registry.connect_eq roll l t x.registry
  rw [if_neg (by simp [alive]), if_neg absent] at connected
  simp only [connect, connected]
  rfl

theorem disconnect_table {list : List ListenerId}
    (held : x.registry.table.list? t = some (list ++ [l])) (absent : l ∉ list) :
    (x.disconnect l t).2.registry.table = x.registry.table.set t list := by
  have once : (list ++ [l]).count l = 1 := by
    rw [List.count_append, List.count_eq_zero_of_not_mem absent, List.count_singleton_self]
  have left : (list ++ [l]).filter (· != l) = list := by
    rw [List.filter_append, List.filter_eq_self.mpr]
    · simp
    · intro k inside
      have different : k ≠ l := fun same => absent (same ▸ inside)
      simpa using different
  simp only [disconnect, Registry.disconnect, held, once, left, Nat.succ_ne_zero, if_false]
  rfl

/-! ### Tasks that leave the lists alone -/

theorem turn_registry (budget : Option Duration) (started : Timestamp) :
    (x.turn budget started).registry = x.registry := by
  have taken : (x.takeDue budget started).2.registry = x.registry := by
    unfold takeDue
    dsimp only
    split
    · rfl
    · split <;> rfl
  unfold turn
  split
  all_goals
    rename_i took
    rw [took] at taken
    exact taken

/-- Dispatches and drains leave the lists as they are, if no listener is gone. -/
theorem Task.run_table {task : Task} (inner : task.Inner)
    (alive : ∀ t, ∀ l ∈ x.registry.listed t, roll.isAlive l = true) :
    (task.run roll x).registry.table = x.registry.table := by
  cases task with
  | make | serve => cases inner
  | pruneOne t l =>
    have present : (roll.isAlive l || !x.registry.contains t l) = true := by
      by_cases listed : l ∈ x.registry.listed t
      · rw [alive t l listed, Bool.true_or]
      · rw [Bool.eq_false_iff.mpr (mt Registry.contains_iff.mp listed), Bool.not_false, Bool.or_true]
    simp only [run, Manager.pruneOne, Registry.prune, if_pos present]
  | beginDispatch t =>
    simp only [run, Manager.beginDispatch]
    split <;> rfl
  | beginDrain =>
    simp only [run, Manager.beginDrain]
    split <;> rfl
  | turn budget started => exact congrArg Registry.table (turn_registry budget started)
  | release | look | conclude | closeFrame | finishDrain | endDrain => rfl

end Manager

namespace World

variable {σ : Type} {w w' : World σ} {m : ManagerId}

theorem Becomes.isAlive {x : Manager} (becomes : Becomes m x w w') (l : ListenerId) :
    w'.isAlive l = w.isAlive l := by
  have running : w'.running = w.running := congrArg Surroundings.running becomes.surroundings
  rw [World.isAlive, World.isAlive, listener, listener, becomes.listeners, running]

theorem isAlive_newListener {name : String} {role : Role} {l : ListenerId} :
    (w.newListener name role).2.isAlive l = true ↔ l = w.listeners.size ∨ w.isAlive l = true := by
  rw [isAlive_iff, isAlive_iff]
  simp only [newListener, listener, Store.get_push]
  by_cases new : l = w.listeners.size
  · simp [new]
  · simp [new]

theorem isAlive_dropListener {k l : ListenerId} (other : l ≠ k) :
    (w.dropListener l).2.isAlive k = w.isAlive k := by
  simp only [World.isAlive, dropListener, modifyListener, listener, Store.get_modify, if_neg other]

theorem isAlive_releaseManager (m : ManagerId) (k : ListenerId) :
    (w.releaseManager m).isAlive k = w.isAlive k := by
  simp only [releaseManager]
  split <;> rfl

/-- The lists of a manager. -/
def table (m : ManagerId) (w : World σ) : Table := (w.registry m).table

theorem table_dropListener (m : ManagerId) (l : ListenerId) :
    (w.dropListener l).2.table m = w.table m := rfl

theorem table_releaseManager (n : ManagerId) : (w.releaseManager n).table m = w.table m := by
  rw [table, table, registry, registry, releaseManager_manager]
  split
  · rename_i same
    rw [← same]
    rfl
  · rfl

/-- No listener on the lists of a manager is gone. -/
def AllAlive (m : ManagerId) (w : World σ) : Prop :=
  ∀ t, ∀ l ∈ (w.registry m).listed t, w.isAlive l = true

theorem allAlive_iff : w.AllAlive m ↔
    ∀ entry ∈ (w.table m).entries, ∀ l ∈ entry.2, w.isAlive l = true := by
  constructor
  · rintro alive ⟨t, list⟩ inside l listed
    refine alive t l ?_
    rwa [Registry.listed, show (w.registry m).table.list? t = _ from Table.mem_entries_iff.mp inside,
      Option.getD_some]
  · intro alive t l listed
    rw [Registry.listed] at listed
    cases held : (w.registry m).table.list? t with
    | none =>
      rw [held] at listed
      cases listed
    | some list =>
      rw [held] at listed
      exact alive (t, list) (Table.mem_entries_iff.mpr held) l listed

instance (m : ManagerId) (w : World σ) : Decidable (w.AllAlive m) :=
  decidable_of_iff _ allAlive_iff.symm

end World

namespace Machine

open World

variable {σ : Type} {behaviour : Behaviour σ} {c d first last : State σ} {m : ManagerId} {n : Nat}

/-! ### Runs that leave the lists alone -/

theorem step_table (moved : step behaviour c = some d) (other : ∀ p, c.control ≠ .program p)
    (alive : c.world.AllAlive m) : d.world.table m = c.world.table m := by
  have does := step_does moved
  cases works : c.task? with
  | none =>
    rw [works] at does
    exact congrArg (·.registry.table) (does m)
  | some asked =>
    obtain ⟨n, task⟩ := asked
    rw [works] at does
    have becomes := does m
    split at becomes
    · rename_i same
      subst same
      rw [table, registry, becomes]
      refine Task.run_table (inner_of_task? works other) fun t l listed => ?_
      rw [isAlive_roll]
      exact alive t l listed
    · exact congrArg (·.registry.table) becomes

/-- For so many steps no program changes the lists of a manager, and at every moment all listeners
on them live. -/
structure LeftAlone (behaviour : Behaviour σ) (m : ManagerId) (n : Nat) (first : State σ) : Prop where
  lists : ∀ i < n, ∀ p stack w d, after behaviour i first = some ⟨.program p, stack, w⟩ →
    step behaviour ⟨.program p, stack, w⟩ = some d → d.world.table m = w.table m
  alive : ∀ i ≤ n, ∀ c, after behaviour i first = some c → c.world.AllAlive m

theorem LeftAlone.pred (alone : LeftAlone behaviour m (n + 1) first) :
    LeftAlone behaviour m n first where
  lists := fun i early => alone.lists i (Nat.lt_succ_of_lt early)
  alive := fun i early => alone.alive i (Nat.le_succ_of_le early)

/-- What is left alone stays as it is. -/
theorem LeftAlone.table (alone : LeftAlone behaviour m n first)
    (run : after behaviour n first = some last) : last.world.table m = first.world.table m := by
  induction n generalizing last with
  | zero => rw [Option.some.inj run]
  | succ n ih =>
    rw [after_succ] at run
    obtain ⟨⟨control, stack, w⟩, before, moved⟩ := Option.bind_eq_some_iff.mp run
    rw [← ih alone.pred before]
    by_cases programs : ∃ p, control = .program p
    · obtain ⟨p, rfl⟩ := programs
      exact alone.lists n (Nat.lt_succ_self n) p stack w last before moved
    · exact step_table moved (fun p same => programs ⟨p, same⟩)
        (alone.alive n (Nat.le_succ n) _ before)

/-! ### Engines come and go -/

variable {g g₀ : Engine} {w v : World σ} {ops : List Op} {l : ListenerId} {t : TypeId}

/-- The categories that an engine listens to. -/
def ownTypes : List TypeId := [Kind.quit.typeId, Kind.update.typeId, Kind.render.typeId]

theorem quit_ne_update : Kind.quit.typeId ≠ Kind.update.typeId := by decide +kernel

theorem quit_ne_render : Kind.quit.typeId ≠ Kind.render.typeId := by decide +kernel

theorem update_ne_render : Kind.update.typeId ≠ Kind.render.typeId := by decide +kernel

/-- The lists when an engine has joined them. -/
def joined (quit frames : ListenerId) (table : Table) : Table :=
  ((table.append Kind.quit.typeId quit).append Kind.update.typeId frames).append
    Kind.render.typeId frames

theorem mem_joined {quit frames : ListenerId} {table : Table}
    (listed : l ∈ (table.list? t).getD []) :
    l ∈ ((joined quit frames table).list? t).getD [] :=
  Table.mem_append (Table.mem_append (Table.mem_append listed))

theorem connect_joins {connected : Bool}
    (works : Works behaviour (Program.connect m l t) w ops connected v)
    (alive : w.isAlive l = true) (absent : l ∉ (w.registry m).listed t) :
    v.table m = (w.table m).append t l ∧ ∀ k, v.isAlive k = w.isAlive k := by
  have becomes := connect_becomes works
  have found := becomes.managers m
  rw [if_pos rfl] at found
  refine ⟨?_, becomes.isAlive⟩
  rw [← isAlive_roll] at alive
  exact (congrArg (·.registry.table) found).trans (Manager.connect_table alive absent)

theorem disconnect_leaves {removed : Bool} {list : List ListenerId}
    (works : Works behaviour (Program.disconnect m l t) w ops removed v)
    (held : (w.table m).list? t = some (list ++ [l])) (absent : l ∉ list) :
    v.table m = (w.table m).set t list ∧ ∀ k, v.isAlive k = w.isAlive k := by
  obtain ⟨-, becomes⟩ := disconnect_works works
  have found := becomes.managers m
  rw [if_pos rfl] at found
  exact ⟨(congrArg (·.registry.table) found).trans (Manager.disconnect_table held absent),
    becomes.isAlive⟩

/-- Two living listeners that are on no list join those of an engine. -/
theorem connects_join {x y u : World σ} {quit frames : ListenerId} {connected : Bool}
    (alive : w.isAlive quit = true) (alive' : w.isAlive frames = true)
    (absent : ∀ t, quit ∉ (w.registry m).listed t) (absent' : ∀ t, frames ∉ (w.registry m).listed t)
    (first : Works behaviour (Program.connect m quit Kind.quit.typeId) w ops connected x)
    (second : Works behaviour (Program.connect m frames Kind.update.typeId) x ops' connected' y)
    (third : Works behaviour (Program.connect m frames Kind.render.typeId) y ops'' connected'' u) :
    u.table m = joined quit frames (w.table m) := by
  obtain ⟨quits, same⟩ := connect_joins first alive (absent _)
  rw [← same] at alive'
  have unlisted : frames ∉ (x.registry m).listed Kind.update.typeId := by
    rw [Registry.listed, show (x.registry m).table = _ from quits, Table.list?_append quit_ne_update]
    exact absent' _
  obtain ⟨updates, same⟩ := connect_joins second alive' unlisted
  rw [← same] at alive'
  have unlisted : frames ∉ (y.registry m).listed Kind.render.typeId := by
    rw [Registry.listed, show (y.registry m).table = _ from updates,
      Table.list?_append update_ne_render, quits, Table.list?_append quit_ne_render]
    exact absent' _
  rw [(connect_joins third alive' unlisted).1, updates, quits, joined]

/-- An engine that is built puts listeners of its own at the end of three lists. -/
theorem create_joins {settings : Config.EngineSettings}
    (works : Works behaviour (Engine.create m settings) w ops g v)
    (known : ∀ t, ∀ l ∈ (w.registry m).listed t, l < w.listeners.size) :
    g.quit = w.listeners.size ∧ g.frames = w.listeners.size + 1 ∧
      v.table m = joined g.quit g.frames (w.table m) := by
  obtain ⟨_, _, u, _, _, _, _, _, _, first, second, third, rfl, rfl⟩ := create_connects works
  have lists : (w.holdManager m).registry m = w.registry m :=
    registry_modifyManager_self fun x => { x with holders := x.holders + 1 }
  have unlisted {k : ListenerId} (new : w.listeners.size ≤ k) (t : TypeId) :
      k ∉ ((w.holdManager m).registry m).listed t := by
    rw [lists]
    exact fun listed => absurd (known t k listed) (Nat.not_lt_of_le new)
  have next : ((w.holdManager m).newListener "quit" (.quit true 0)).2.listeners.size =
      w.listeners.size + 1 := Store.size_push ..
  refine ⟨rfl, rfl, ?_⟩
  have read : KeepsRegistries u (u.readClock m).2 := .modifyManager rfl
  rw [World.table, read]
  -- both listeners are new, so they live and are on no list yet
  refine (connects_join ?_ ?_ ?_ ?_ first second third).trans
    (congrArg (joined _ _) (congrArg Registry.table lists))
  · exact isAlive_newListener.mpr (.inr (isAlive_newListener.mpr (.inl rfl)))
  · exact isAlive_newListener.mpr (.inl next.symm)
  · exact unlisted (Nat.le_refl _)
  · exact unlisted (Nat.le_succ _)

/-- The listeners of an engine leave the lists that they joined. The lists stay. -/
theorem disconnects_leave {x y u : World σ} {quit frames : ListenerId} {table : Table}
    (joins : w.table m = joined quit frames table) (absent : ∀ t, quit ∉ (table.list? t).getD [])
    (absent' : ∀ t, frames ∉ (table.list? t).getD [])
    (first : Works behaviour (Program.disconnect m quit Kind.quit.typeId) w ops removed x)
    (second : Works behaviour (Program.disconnect m frames Kind.update.typeId) x ops' removed' y)
    (third : Works behaviour (Program.disconnect m frames Kind.render.typeId) y ops'' removed'' u) :
    (∀ t, (u.table m).list? t =
      if t ∈ ownTypes then some ((table.list? t).getD []) else table.list? t) ∧
    ∀ l, u.isAlive l = w.isAlive l := by
  have held : (w.table m).list? Kind.quit.typeId =
      some ((table.list? Kind.quit.typeId).getD [] ++ [quit]) := by
    rw [joins, joined, Table.list?_append quit_ne_render.symm,
      Table.list?_append quit_ne_update.symm, Table.append, Table.list?_set, if_pos rfl]
  obtain ⟨quits, same⟩ := disconnect_leaves first held (absent _)
  have held : (x.table m).list? Kind.update.typeId =
      some ((table.list? Kind.update.typeId).getD [] ++ [frames]) := by
    rw [quits, Table.list?_set, if_neg quit_ne_update, joins, joined,
      Table.list?_append update_ne_render.symm, Table.append, Table.list?_set, if_pos rfl,
      Table.list?_append quit_ne_update]
  obtain ⟨updates, same'⟩ := disconnect_leaves second held (absent' _)
  have held : (y.table m).list? Kind.render.typeId =
      some ((table.list? Kind.render.typeId).getD [] ++ [frames]) := by
    rw [updates, Table.list?_set, if_neg update_ne_render, quits, Table.list?_set,
      if_neg quit_ne_render, joins, joined, Table.append, Table.list?_set, if_pos rfl,
      Table.list?_append update_ne_render, Table.list?_append quit_ne_render]
  obtain ⟨renders, same''⟩ := disconnect_leaves third held (absent' _)
  refine ⟨fun t => ?_, fun l => by rw [same'', same', same]⟩
  rw [renders, updates, quits, joins, joined]
  simp only [Table.append, Table.list?_set, ownTypes, List.mem_cons, List.not_mem_nil, or_false]
  by_cases isRender : Kind.render.typeId = t
  · simp [← isRender]
  · by_cases isUpdate : Kind.update.typeId = t
    · simp [← isUpdate, update_ne_render.symm]
    · by_cases isQuit : Kind.quit.typeId = t
      · simp [← isQuit, quit_ne_render.symm, quit_ne_update.symm]
      · simp [isRender, isUpdate, isQuit, Ne.symm isRender, Ne.symm isUpdate, Ne.symm isQuit]

/-- An engine that is dropped takes its listeners off the lists again. -/
theorem drop_leaves {table : Table} (works : Works behaviour g.drop w ops () v)
    (joins : w.table g.manager = joined g.quit g.frames table)
    (absent : ∀ t, g.quit ∉ (table.list? t).getD [])
    (absent' : ∀ t, g.frames ∉ (table.list? t).getD []) :
    (∀ t, (v.table g.manager).list? t =
      if t ∈ ownTypes then some ((table.list? t).getD []) else table.list? t) ∧
    ∀ l, g.quit ≠ l → g.frames ≠ l → v.isAlive l = w.isAlive l := by
  obtain ⟨_, _, _, _, _, _, _, _, _, first, second, third, -, rfl⟩ := drop_disconnects works
  obtain ⟨lists, same⟩ := disconnects_leave joins absent absent' first second third
  constructor
  · intro t
    rw [table_dropListener, table_dropListener, table_releaseManager, lists]
  · intro l notQuit notFrames
    rw [isAlive_dropListener notFrames, isAlive_dropListener notQuit, isAlive_releaseManager, same]

theorem disconnect_comes (behaviour : Behaviour σ) (m : ManagerId) (l : ListenerId) (t : TypeId)
    (w : World σ) : ∃ ops removed v, Works behaviour (Program.disconnect m l t) w ops removed v := by
  cases reply : w.tryDisconnect m l t with
  | mk answer u =>
    have asked : w.carryOut (.tryDisconnect m l t) = some (answer, u) := congrArg some reply
    cases answer with
    | ok removed => exact ⟨_, true, u, .bind (.carried _ asked) .done⟩
    | error e =>
      exact ⟨_, false, _, .bind (.carried _ asked) (.bind (.carried (.note _) rfl) .done)⟩

/-- An engine can always be dropped. -/
theorem drop_comes (behaviour : Behaviour σ) (g : Engine) (w : World σ) :
    ∃ ops v, Works behaviour g.drop w ops () v := by
  obtain ⟨_, _, x, first⟩ := disconnect_comes behaviour g.manager g.quit Kind.quit.typeId w
  obtain ⟨_, _, y, second⟩ := disconnect_comes behaviour g.manager g.frames Kind.update.typeId x
  obtain ⟨_, _, z, third⟩ := disconnect_comes behaviour g.manager g.frames Kind.render.typeId y
  exact ⟨_, _, .bind first (.bind second (.bind third (.bind (.carried (.releaseManager _) rfl)
    (.bind (.carried (.dropListener g.quit) rfl)
      (.bind (.carried (.dropListener g.frames) rfl) .done)))))⟩

theorem Ticked.frames {built : State σ} {k : Nat} {deltas : List Duration}
    (ticked : Ticked behaviour g₀ built k deltas g c) : g.frames = g₀.frames := by
  induction ticked with
  | built => rfl
  | meanwhile _ _ ih => exact ih
  | ticks _ _ works ih =>
    obtain ⟨rfl, -⟩ := turn_acts works
    exact ih

/-! ### Passages that can be computed -/

/-- Whether a program that has its turn leaves the lists of a manager as they are. -/
def keepsLists (behaviour : Behaviour σ) (m : ManagerId) (c : State σ) : Bool :=
  match c.control with
  | .program _ => (step behaviour c).all fun d => d.world.table m == c.world.table m
  | _ => true

def leftAlone (behaviour : Behaviour σ) (m : ManagerId) (n : Nat) (first : State σ) : Bool :=
  ((List.range n).all fun i => (after behaviour i first).all (keepsLists behaviour m)) &&
    (List.range (n + 1)).all fun i => (after behaviour i first).all (·.world.AllAlive m)

theorem leftAlone_sound (checked : leftAlone behaviour m n first = true) :
    LeftAlone behaviour m n first := by
  obtain ⟨lists, alive⟩ := Bool.and_eq_true_iff.mp checked
  constructor
  · intro i early p stack w d here moved
    have kept := List.all_eq_true.mp lists i (List.mem_range.mpr early)
    rw [here, Option.all_some, keepsLists, moved, Option.all_some, beq_iff_eq] at kept
    exact kept
  · intro i early c here
    have live := List.all_eq_true.mp alive i (List.mem_range.mpr (Nat.lt_succ_of_le early))
    rw [here] at live
    exact of_decide_eq_true live

/-- A host that drops an engine after its tick, and then ends. -/
def departing (result : Engine × Bool) : Program σ Bool := result.1.drop.bind fun _ => .done true

/-- A host that makes a tick with an engine and drops it. -/
def passing (g : Engine) : Program σ Bool := g.turn.bind departing

/-- An engine is built, makes a tick and is dropped, and meanwhile the lists are left alone. -/
structure Passage (behaviour : Behaviour σ) (m : ManagerId) (n : Nat) (w₀ : World σ) (g₀ : Engine)
    (v₀ : World σ) (g : Engine × Bool) (w v : World σ) : Prop where
  created : ∃ ops, Works behaviour (Engine.create m {}) w₀ ops g₀ v₀
  ticked : ∃ deltas, Ticked behaviour g₀ ⟨.program (passing g₀), [], v₀⟩ 1 deltas g.1
    ⟨.program (departing g), [], w⟩
  run : after behaviour n ⟨.program (passing g₀), [], v₀⟩ = some ⟨.program (departing g), [], w⟩
  alone : LeftAlone behaviour m n ⟨.program (passing g₀), [], v₀⟩
  dropped : ∃ ops, Works behaviour g.1.drop w ops () v

/-- Whether a passage whose tick ends after so many steps leaves a world with such a property. The
host ends seven steps later. -/
def passes (behaviour : Behaviour σ) (m : ManagerId) (n : Nat) (w₀ : World σ)
    (check : World σ → Bool) : Bool :=
  comesTo behaviour 1 (Engine.create m {}) w₀ fun g₀ v₀ =>
    leftAlone behaviour m n ⟨.program (passing g₀), [], v₀⟩ &&
      (after behaviour (n + 7) ⟨.program (passing g₀), [], v₀⟩).any (·.hasReturned true) &&
      comesTo behaviour 1 g₀.turn v₀ fun g w =>
        (after behaviour 7 ⟨.program (departing g), [], w⟩).any (·.hasReturned true) &&
          comesTo behaviour 1 g.1.drop w fun _ v => check v

theorem passes_sound {w₀ : World σ} {check : World σ → Bool}
    (checked : passes behaviour m n w₀ check = true) :
    ∃ g₀ v₀ g w v, Passage behaviour m n w₀ g₀ v₀ g w v ∧ check v = true := by
  obtain ⟨ops₀, g₀, v₀, created, checked⟩ := Works.checked checked
  obtain ⟨checked, turned⟩ := Bool.and_eq_true_iff.mp checked
  obtain ⟨alone, whole⟩ := Bool.and_eq_true_iff.mp checked
  obtain ⟨ops, g, w, turns, checked⟩ := Works.checked turned
  obtain ⟨rest, dropped⟩ := Bool.and_eq_true_iff.mp checked
  obtain ⟨_, _, v, drops, told⟩ := Works.checked dropped
  have start : Ticked behaviour g₀ ⟨.program (passing g₀), [], v₀⟩ 0 [] g₀
    ⟨.program (passing g₀), [], v₀⟩ := .built
  have ticks : Reaches behaviour ⟨.program (passing g₀), [], v₀⟩ ⟨.program (departing g), [], w⟩ :=
    turns.reaches (.bind .itself departing) []
  -- both the whole run and what follows the tick end, so the tick takes the steps in between
  obtain ⟨k, run⟩ := ticks
  obtain ⟨_, ended, returned⟩ := (Option.any_eq_true ..).mp whole
  obtain ⟨_, rfl⟩ := hasReturned_iff.mp returned
  obtain ⟨_, left, returned⟩ := (Option.any_eq_true ..).mp rest
  obtain ⟨u, rfl⟩ := hasReturned_iff.mp returned
  have finished : after behaviour (k + 7) ⟨.program (passing g₀), [], v₀⟩ =
      some ⟨.outcome (.returned true), [], u⟩ := by
    rw [after_add, run]
    exact left
  cases Nat.add_right_cancel (after_ended finished ended)
  exact ⟨g₀, v₀, g, w, v, ⟨⟨_, created⟩, ⟨_, start.ticks (.bind .itself departing) turns⟩, run,
    leftAlone_sound alone, ⟨_, drops⟩⟩, told⟩

/-! ### What an engine leaves behind -/

/-- An engine is built on a manager whose registered listeners all live, makes any number of ticks and
is dropped, while nobody else changes the lists and all listeners on them live. Then every list holds
what it held before. A validation reports of the lists what it would have reported before, and
besides that those have no listeners that were made for the engine. -/
theorem departed_engine_leaves_lists {settings : Config.EngineSettings} {w₀ v₀ : World σ}
    {ops₀ : List Op} {p₀ p : Program σ Bool} {next₀ : Engine → Program σ Bool}
    {next : Unit → Program σ Bool} {stack₀ stack : List (Waiting σ)} {k : Nat}
    {deltas : List Duration}
    (reachable : Reachable behaviour ⟨.program p₀, stack₀, w₀⟩)
    (living : w₀.AllAlive m)
    (builds : (Engine.create m settings).Begins p₀ next₀)
    (created : Works behaviour (Engine.create m settings) w₀ ops₀ g₀ v₀)
    (history : Ticked behaviour g₀ ⟨.program (next₀ g₀), stack₀, v₀⟩ k deltas g
      ⟨.program p, stack, w⟩)
    (run : after behaviour n ⟨.program (next₀ g₀), stack₀, v₀⟩ = some ⟨.program p, stack, w⟩)
    (alone : LeftAlone behaviour m n ⟨.program (next₀ g₀), stack₀, v₀⟩)
    (drops : g.drop.Begins p next) :
    (∃ ops v, Works behaviour g.drop w ops () v) ∧
    ∀ ops v, Works behaviour g.drop w ops () v →
      Reachable behaviour ⟨.program (next ()), stack, v⟩ ∧
      (∀ t, (v.registry m).listed t = (w₀.registry m).listed t) ∧
      ∀ issue, (∀ count, issue ≠ .backlog count) →
        (issue ∈ (v.manager m).validate v.roll ↔ issue ∈ (w₀.manager m).validate w₀.roll ∨
          ∃ t ∈ ownTypes, (w₀.table m).list? t = none ∧ issue = .noListeners t) := by
  refine ⟨drop_comes behaviour g w, fun ops v works => ?_⟩
  have known := (Reachable.settled reachable).listed m
  have manager : g.manager = m := history.later.manager.trans (create_new created).manager
  obtain ⟨quit, frames, joins⟩ := create_joins created known
  rw [← history.later.quit] at quit joins
  rw [← history.frames] at frames joins
  have unlisted {l : ListenerId} (new : w₀.listeners.size ≤ l) (t : TypeId) :
      l ∉ ((w₀.table m).list? t).getD [] :=
    fun listed => absurd (known t l listed) (Nat.not_lt_of_le new)
  have later : w₀.listeners.size ≤ g.frames := frames ▸ Nat.le_succ _
  -- what was left alone is still as it was when the engine had joined
  have joined' : w.table g.manager = joined g.quit g.frames (w₀.table m) := by
    rw [manager, ← joins]
    exact alone.table run
  obtain ⟨lists, same⟩ := drop_leaves works joined' (unlisted (Nat.le_of_eq quit.symm))
    (unlisted later)
  rw [manager] at lists
  have built := created.reaches builds stack₀
  refine ⟨reachable.next (built.trans (history.run.trans (works.reaches drops stack))), ?_, ?_⟩
  · intro t
    rw [Registry.listed, Registry.listed, show (v.registry m).table.list? t = _ from lists t]
    split <;> rfl
  · intro issue listed
    refine Manager.mem_validate_of_made listed lists fun t l inside => ?_
    have other {k : ListenerId} (new : w₀.listeners.size ≤ k) : k ≠ l :=
      fun equal => absurd (known t l inside) (Nat.not_lt_of_le (equal ▸ new))
    have still : l ∈ (w.registry m).listed t := by
      rw [Registry.listed, show (w.registry m).table = _ from manager ▸ joined']
      exact mem_joined inside
    rw [isAlive_roll, isAlive_roll, living t l inside,
      same l (other (Nat.le_of_eq quit.symm)) (other later)]
    exact alone.alive n (Nat.le_refl n) _ run t l still

/-- One listener hears the updates. Another one did hear the renders, so their list is empty
already. An engine comes and goes, and only the list for quit events is new. -/
theorem engine_passes_by_listeners :
    let behaviour : Behaviour Unit := fun _ _ => .done false
    let setup : Program Unit Unit := do
      let m ← Program.ask (.newManager default)
      let first ← Program.ask (.newListener "first" .custom)
      let second ← Program.ask (.newListener "second" .custom)
      let _ ← Program.connect m first Kind.update.typeId
      let _ ← Program.connect m second Kind.render.typeId
      let _ ← Program.disconnect m second Kind.render.typeId
    ∃ w₀ g₀ v₀ g w v, Yields behaviour setup (World.initial ()) () w₀ ∧ w₀.AllAlive 0 ∧
      Passage behaviour 0 26 w₀ g₀ v₀ g w v ∧
      (v.registry 0).listed Kind.update.typeId = [0] ∧
      .noListeners Kind.render.typeId ∈ (w₀.manager 0).validate w₀.roll ∧
      ∀ t, .noListeners t ∈ (v.manager 0).validate v.roll ↔
        .noListeners t ∈ (w₀.manager 0).validate w₀.roll ∨ t = Kind.quit.typeId := by
  intro behaviour setup
  have ran : comesTo behaviour 1 setup (World.initial ()) (fun _ w₀ =>
      decide (w₀.AllAlive 0) &&
        ((w₀.registry 0).listed Kind.update.typeId == [0] &&
          ownTypes.filter (fun t => ((w₀.table 0).list? t).isNone) == [Kind.quit.typeId]) &&
        (((w₀.manager 0).validate w₀.roll).contains (.noListeners Kind.render.typeId) &&
          passes behaviour 0 26 w₀ fun _ => true)) = true := by cbv
  obtain ⟨_, _, w₀, sets, told⟩ := Works.checked ran
  simp only [Bool.and_eq_true, beq_iff_eq, decide_eq_true_eq, List.contains_iff_mem] at told
  obtain ⟨⟨living, listed, unlisted⟩, empty, passed⟩ := told
  obtain ⟨g₀, v₀, g, w, v, passage, -⟩ := passes_sound passed
  obtain ⟨ops₀, created⟩ := passage.created
  obtain ⟨deltas, history⟩ := passage.ticked
  obtain ⟨ops, dropped⟩ := passage.dropped
  have reachable := sets.yields.reachable fun _ => (Engine.create 0 {}).bind passing
  obtain ⟨-, leaves⟩ := departed_engine_leaves_lists reachable living (.bind .itself passing)
    created history passage.run passage.alone (.bind .itself _)
  obtain ⟨-, lists, issues⟩ := leaves ops v dropped
  have new (t : TypeId) : t ∈ ownTypes ∧ (w₀.table 0).list? t = none ↔ t = Kind.quit.typeId := by
    rw [← Option.isNone_iff_eq_none]
    exact List.mem_filter.symm.trans (unlisted ▸ List.mem_singleton)
  refine ⟨w₀, g₀, v₀, g, w, v, sets.yields, living, passage, (lists _).trans listed, empty,
    fun t => ?_⟩
  rw [issues _ (by rintro count ⟨⟩)]
  simp only [← and_assoc, new, exists_eq_left, Issue.noListeners.injEq]

/-- Nothing is on any list of a new manager, and a validation reports nothing. When an engine has
come and gone it reports the three empty lists that the engine leaves behind. -/
theorem departed_engine_is_reported :
    let behaviour : Behaviour Unit := fun _ _ => .done false
    let setup : Program Unit Unit := do
      let _ ← Program.ask (.newManager default)
    ∃ w₀ g₀ v₀ g w v, Yields behaviour setup (World.initial ()) () w₀ ∧
      (w₀.registry 0).depth = 0 ∧ w₀.AllAlive 0 ∧ (w₀.manager 0).validate w₀.roll = [] ∧
      Passage behaviour 0 22 w₀ g₀ v₀ g w v ∧
      (v.manager 0).validate v.roll = [.noListeners Kind.quit.typeId,
        .noListeners Kind.update.typeId, .noListeners Kind.render.typeId] := by
  intro behaviour setup
  have ran : comesTo behaviour 1 setup (World.initial ()) (fun _ w₀ =>
      ((w₀.registry 0).depth == 0 && decide (w₀.AllAlive 0)) &&
        ((w₀.manager 0).validate w₀.roll == [] &&
          passes behaviour 0 22 w₀ fun v =>
            (v.manager 0).validate v.roll == [.noListeners Kind.quit.typeId,
              .noListeners Kind.update.typeId, .noListeners Kind.render.typeId])) = true := by cbv
  obtain ⟨_, w₀, sets, told⟩ := Yields.checked ran
  simp only [Bool.and_eq_true, beq_iff_eq, decide_eq_true_eq] at told
  obtain ⟨⟨idle, living⟩, silent, passed⟩ := told
  obtain ⟨g₀, v₀, g, w, v, passage, reported⟩ := passes_sound passed
  exact ⟨w₀, g₀, v₀, g, w, v, sets, idle, living, silent, passage, beq_iff_eq.mp reported⟩

end Machine
end EventEngine
