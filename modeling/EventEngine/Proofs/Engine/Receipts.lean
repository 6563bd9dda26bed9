import EventEngine.Proofs.Machine.Becomes
import EventEngine.Proofs.Machine.Moves

/-! What a quit listener remembers. Whatever else happens in a run, it is the exit code of the last
quit event that the listener was called with, and whether there was one at all. -/
namespace EventEngine

/-- The exit code of a genuine quit event; an event that only has its category is none. -/
def EventRef.exitCode? (e : EventRef) : Option Int32 :=
  match e.event with
  | .engine { payload := .quit exitCode, .. } => some exitCode
  | _ => none

theorem EventRef.isSome_exitCode? {e : EventRef} :
    e.exitCode?.isSome = true ↔ e.event.kind? = some .quit := by
  obtain ⟨id, event⟩ := e
  cases event with
  | plain | custom => simp [exitCode?, Event.kind?]
  | engine event =>
    obtain ⟨payload, priority, due⟩ := event
    cases payload <;> simp [exitCode?, Event.kind?, Payload.kind]

namespace World

variable {σ : Type} {w w' : World σ} {n : ManagerId} {x : Manager} {l : ListenerId}

/-- The listener goes on with its role. -/
def KeepsRole (l : ListenerId) (w w' : World σ) : Prop := (w'.listener l).role = (w.listener l).role

theorem KeepsRole.of_eq (same : w'.listeners = w.listeners) : KeepsRole l w w' := by
  rw [KeepsRole, listener, same, ← listener]

theorem Becomes.listeners (becomes : Becomes n x w w') : w'.listeners = w.listeners :=
  congrArg Surroundings.listeners becomes.surroundings

/-- A quit listener was made before. -/
theorem known_of_quit {running : Bool} {exitCode : Int32}
    (role : (w.listener l).role = .quit running exitCode) : l < w.listeners.size := by
  rcases Nat.lt_or_ge l w.listeners.size with known | unknown
  · exact known
  · rw [listener, Store.get_of_size_le _ unknown] at role
    cases role

theorem carryOut_keepsRole {op : Op} {result : op.Reply × World σ}
    (known : l < w.listeners.size) (carried : w.carryOut op = some result) :
    KeepsRole l w result.2 := by
  cases asks : op.request? with
  | some asked => exact .of_eq (carryOut_becomes asks carried).listeners
  | none =>
    cases op with
    | newListener name role =>
      cases carried
      simp only [KeepsRole, listener, newListener, Store.get_push, if_neg (Nat.ne_of_lt known)]
    | dropListener k =>
      cases carried
      simp only [KeepsRole, listener, dropListener, modifyListener, Store.get_modify]
      split <;> rfl
    | newManager clock =>
      cases carried
      simp only [newManager]
      split <;> exact .of_eq rfl
    | releaseManager m =>
      cases carried
      simp only [releaseManager]
      split <;> exact .of_eq rfl
    | acquireCurrent =>
      cases carried
      simp only [acquireCurrent]
      split <;> exact .of_eq rfl
    | callListener | dispatch | execute => cases carried
    | isCurrent | nameOf | roleOf | newEvent | inspect | validate | note =>
      cases carried
      exact .of_eq rfl
    | _ => cases asks

theorem beginDispatch_listeners (m : ManagerId) (e : EventRef) :
    (w.beginDispatch m e).2.listeners = w.listeners := by
  cases heard : (w.manager m).registry.table.list? e.typeId with
  | none =>
    obtain ⟨w', begun, becomes⟩ := beginDispatch_unheard heard
    rw [begun]
    exact becomes.listeners
  | some list =>
    obtain ⟨w', begun, becomes⟩ := beginDispatch_heard heard
    rw [begun]
    exact becomes.listeners

theorem beginDrain_listeners (m : ManagerId) : (w.beginDrain m).2.listeners = w.listeners := by
  obtain ⟨w', begun, becomes⟩ := beginDrain_becomes (w := w) m
  rw [begun]
  exact becomes.listeners

theorem takeDue_listeners (m : ManagerId) (budget : Option Duration) (started : Timestamp)
    (delivered : Nat) : (w.takeDue m budget started delivered).2.listeners = w.listeners := by
  obtain ⟨w', took, becomes⟩ := takeDue_becomes (w := w) m budget started delivered
  rw [took]
  exact becomes.listeners

theorem finishDrain_listeners (m : ManagerId) (delivered : Nat) :
    (w.finishDrain m delivered).2.listeners = w.listeners := by
  obtain ⟨w', finished, becomes⟩ := finishDrain_becomes (w := w) m delivered
  rw [finished]
  exact becomes.listeners

theorem receiveQuit_role (k : ListenerId) (e : EventRef) :
    ((w.receiveQuit k e).2.listener l).role =
      (if k = l then e.exitCode? else none).elim (w.listener l).role (.quit false) := by
  obtain ⟨id, event⟩ := e
  cases event with
  | plain | custom => simp [receiveQuit, EventRef.exitCode?]
  | engine event =>
    obtain ⟨payload, priority, due⟩ := event
    cases payload with
    | quit exitCode =>
      simp only [receiveQuit, EventRef.exitCode?, listener, modifyListener, Store.get_modify]
      split <;> rfl
    | _ => simp [receiveQuit, EventRef.exitCode?]

theorem countFrame_keepsRole {k : ListenerId} {updates renders : Nat} (e : EventRef)
    (other : k ≠ l) : KeepsRole l w (w.countFrame k updates renders e) := by
  unfold countFrame
  split
  all_goals first
    | exact .of_eq rfl
    | simp only [KeepsRole, listener, modifyListener, Store.get_modify, if_neg other]

end World

namespace Machine

open World

variable {σ : Type} {behaviour : Behaviour σ} {c d : State σ} {l : ListenerId} {running : Bool}
  {exitCode : Int32}

/-- The exit code of the quit event that a listener is called with at a moment. -/
def State.receipt (l : ListenerId) : State σ → Option Int32
  | ⟨.call k e, _, _⟩ => if k = l then e.exitCode? else none
  | _ => none

/-- The exit codes of the quit events that a listener is called with in so many steps. -/
def receipts (behaviour : Behaviour σ) (l : ListenerId) (n : Nat) (c : State σ) : List Int32 :=
  (List.range n).filterMap fun j => (after behaviour j c).bind (State.receipt l)

/-- A quit listener remembers the quit event that it is called with, and nothing else changes what
it remembers. -/
theorem step_role (role : (c.world.listener l).role = .quit running exitCode)
    (moved : step behaviour c = some d) :
    (d.world.listener l).role = (c.receipt l).elim (.quit running exitCode) (.quit false) := by
  have known := known_of_quit role
  have kept (keeps : KeepsRole l c.world d.world) :
      (d.world.listener l).role = .quit running exitCode := keeps.trans role
  have apart {k : ListenerId} {other : Role} (own : (c.world.listener k).role = other)
      (differs : other ≠ .quit running exitCode) : k ≠ l := by
    rintro rfl
    exact differs (own.symm.trans role)
  cases step_moves moved with
  | carriesOut carried => exact kept (carryOut_keepsRole known carried)
  | receivesQuit =>
    rw [receiveQuit_role, role]
    rfl
  | handles own =>
    simp only [State.receipt, if_neg (apart own (by simp)), Option.elim_none]
    exact role
  | countsFrame own =>
    have other := apart own (by simp)
    simp only [State.receipt, if_neg other, Option.elim_none]
    exact kept (countFrame_keepsRole _ other)
  | unheard | heard => exact kept (.of_eq (beginDispatch_listeners ..))
  | prunes => exact kept (.of_eq (pruneOne_becomes ..).listeners)
  | concludes => exact kept (.of_eq (conclude_becomes ..).listeners)
  | consumes => exact kept (.of_eq (conclude_becomes (w := World.consume _ _ _ _ _) ..).listeners)
  | refuses | begins => exact kept (.of_eq (beginDrain_listeners _))
  | ends => exact kept (.of_eq (finishDrain_listeners ..))
  | stops => exact kept (.of_eq ((finishDrain_listeners ..).trans (takeDue_listeners ..)))
  | takes => exact kept (.of_eq (takeDue_listeners ..))
  | _ => exact role

theorem receipts_succ {n : Nat} (here : after behaviour n c = some d) :
    receipts behaviour l (n + 1) c = receipts behaviour l n c ++ (d.receipt l).toList := by
  simp only [receipts, List.range_succ, List.filterMap_append, List.filterMap_cons, here,
    Option.bind_some, List.filterMap_nil]
  cases d.receipt l <;> rfl

/-- A quit listener remembers the last quit event that it was called with. -/
theorem after_role {n : Nat} (role : (c.world.listener l).role = .quit running exitCode)
    (run : after behaviour n c = some d) :
    (d.world.listener l).role =
      (receipts behaviour l n c).getLast?.elim (.quit running exitCode) (.quit false) := by
  induction n generalizing d with
  | zero =>
    cases run
    exact role
  | succ n ih =>
    rw [after_succ] at run
    obtain ⟨x, before, moved⟩ := Option.bind_eq_some_iff.mp run
    have remembered := ih before
    rw [receipts_succ before, List.getLast?_append]
    cases last : (receipts behaviour l n c).getLast? with
    | none =>
      rw [last] at remembered
      rw [step_role remembered moved]
      cases x.receipt l <;> rfl
    | some code =>
      rw [last] at remembered
      rw [step_role remembered moved]
      cases x.receipt l <;> rfl

/-- What a stopped listener remembers is the last quit event that it was called with. -/
theorem receipts_getLast? {n : Nat} {code : Int32}
    (role : (c.world.listener l).role = .quit true exitCode)
    (run : after behaviour n c = some d) (stopped : (d.world.listener l).role = .quit false code) :
    (receipts behaviour l n c).getLast? = some code := by
  rw [after_role role run] at stopped
  cases last : (receipts behaviour l n c).getLast? with
  | none =>
    rw [last] at stopped
    cases stopped
  | some received =>
    rw [last] at stopped
    cases stopped
    rfl

/-- A quit listener goes on being one. -/
theorem Reaches.quits (run : Reaches behaviour c d)
    (role : (c.world.listener l).role = .quit running exitCode) :
    ∃ later code, (d.world.listener l).role = .quit later code := by
  obtain ⟨n, run⟩ := run
  rw [after_role role run]
  cases (receipts behaviour l n c).getLast? with
  | none => exact ⟨_, _, rfl⟩
  | some code => exact ⟨_, _, rfl⟩

/-- A genuine quit event reaches a listener between two moments of a run. -/
def QuitReaches (behaviour : Behaviour σ) (l : ListenerId) (c d : State σ) : Prop :=
  ∃ e above w, e.event.kind? = some .quit ∧ Reaches behaviour c ⟨.call l e, above, w⟩ ∧
    Reaches behaviour ⟨.call l e, above, w⟩ d

theorem mem_receipts_iff {n : Nat} {code : Int32} : code ∈ receipts behaviour l n c ↔
    ∃ j < n, ∃ e above w, after behaviour j c = some ⟨.call l e, above, w⟩ ∧
      e.exitCode? = some code := by
  simp only [receipts, List.mem_filterMap, List.mem_range, Option.bind_eq_some_iff]
  constructor
  · rintro ⟨j, early, ⟨control, above, w⟩, here, received⟩
    cases control with
    | call k e =>
      simp only [State.receipt] at received
      split at received
      · rename_i same
        subst same
        exact ⟨j, early, e, above, w, here, received⟩
      · cases received
    | _ => cases received
  · rintro ⟨j, early, e, above, w, here, received⟩
    exact ⟨j, early, _, here, by simpa only [State.receipt, if_pos] using received⟩

/-- What runs is stopped by the first genuine quit event. -/
theorem stopped_iff (role : (c.world.listener l).role = .quit true exitCode)
    (run : Reaches behaviour c d) (outside : ∀ e, d.control ≠ .call l e) :
    (∃ code, (d.world.listener l).role = .quit false code) ↔ QuitReaches behaviour l c d := by
  constructor
  · rintro ⟨code, stopped⟩
    obtain ⟨n, run⟩ := run
    have received := List.mem_of_getLast? (receipts_getLast? role run stopped)
    obtain ⟨j, early, e, above, w, here, genuine⟩ := mem_receipts_iff.mp received
    obtain ⟨k, rfl⟩ := Nat.exists_eq_add_of_le (Nat.le_of_lt early)
    rw [after_add, here] at run
    exact ⟨e, above, w, EventRef.isSome_exitCode?.mp (genuine ▸ rfl), ⟨j, here⟩, k, run⟩
  · rintro ⟨e, above, w, genuine, ⟨j, here⟩, k, rest⟩
    obtain ⟨code, received⟩ := Option.isSome_iff_exists.mp (EventRef.isSome_exitCode?.mpr genuine)
    have later : k ≠ 0 := by
      rintro rfl
      cases rest
      exact outside e rfl
    have whole : after behaviour (j + k) c = some d := by
      rw [after_add, here]
      exact rest
    have inside : code ∈ receipts behaviour l (j + k) c :=
      mem_receipts_iff.mpr ⟨j, by omega, e, above, w, here, received⟩
    rw [after_role role whole]
    obtain ⟨last, isLast⟩ :=
      Option.isSome_iff_exists.mp (List.getLast?_isSome.mpr (List.ne_nil_of_mem inside))
    exact ⟨last, by rw [isLast]; rfl⟩

end Machine
end EventEngine
