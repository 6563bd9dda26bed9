import EventEngine.Proofs.Dispatch.Lives
import Mathlib

/-! Which listeners a dispatch calls. It comes to those of the list that its category had when
it began, one after the other, and calls exactly those that live and have been on the list all
the time. Its frame knows this although the list itself may change at every call. -/
namespace EventEngine.Machine

open World

variable {σ : Type} {behaviour : Behaviour σ} {c d : State σ}

/-- The listener that a dispatch, followed by itself, calls at a moment. -/
def State.calling : State σ → Option ListenerId
  | ⟨.call l _, [_], _⟩ => some l
  | _ => none

/-- The listeners that a dispatch, followed by itself, calls in so many steps. -/
def calls (behaviour : Behaviour σ) : Nat → State σ → List ListenerId
  | 0, _ => []
  | n + 1, c =>
    match step behaviour c with
    | none => c.calling.toList
    | some d => c.calling.toList ++ calls behaviour n d

theorem calls_add {n : Nat} (run : after behaviour n c = some d) (k : Nat) :
    calls behaviour (n + k) c = calls behaviour n c ++ calls behaviour k d := by
  induction n generalizing c with
  | zero =>
    cases run
    rw [Nat.zero_add]
    rfl
  | succ n ih =>
    obtain ⟨next, moved, rest⟩ := Option.bind_eq_some_iff.mp run
    rw [Nat.add_right_comm]
    simp only [calls, moved, ih rest, List.append_assoc]

theorem calls_silent (moved : step behaviour c = some d) (silent : c.calling = none) (n : Nat) :
    calls behaviour (n + 1) c = calls behaviour n d := by
  simp only [calls, moved, silent, Option.toList_none, List.nil_append]

/-- What is called within the call of a listener is not called by the dispatch itself. -/
theorem calls_over {k : Nat} {top : Waiting σ}
    (deeper : ∀ l e, c.control = .call l e → c.stack ≠ []) (run : after behaviour k c = some d) :
    calls behaviour k (c.over [top]) = [] := by
  induction k generalizing c with
  | zero => rfl
  | succ k ih =>
    obtain ⟨next, moved, rest⟩ := Option.bind_eq_some_iff.mp run
    have silent : (c.over [top]).calling = none := by
      obtain ⟨control, stack, w⟩ := c
      cases control with
      | call l e =>
        cases stack with
        | nil => exact (deeper l e rfl rfl).elim
        | cons first others => cases others <;> rfl
      | _ => rfl
    simp only [calls, step_over moved, silent, Option.toList_none, List.nil_append]
    exact ih (fun l e called => stack_ne_nil_of_call moved called) rest

theorem calls_call {l : ListenerId} {e : EventRef} {w w' : World σ} {o : Outcome Bool} {k : Nat}
    {top : Waiting σ} (run : after behaviour k ⟨.call l e, [], w⟩ = some ⟨.outcome o, [], w'⟩) :
    calls behaviour k ⟨.call l e, [top], w⟩ = [l] := by
  cases k with
  | zero => cases run
  | succ k =>
    obtain ⟨next, moved, rest⟩ := Option.bind_eq_some_iff.mp run
    have above := step_over moved [top]
    simp only [State.over, List.nil_append] at above
    simp only [calls, above, State.calling, Option.toList_some]
    exact congrArg _ (calls_over (fun _ _ called => stack_ne_nil_of_call moved called) rest)

/-- From the first moment of a run to this one, the listener is on the list. -/
def Stays (behaviour : Behaviour σ) (c : State σ) (m : ManagerId) (t : TypeId) (l : ListenerId)
    (i : Nat) : Prop :=
  ∀ j ≤ i, ∀ d, after behaviour j c = some d → l ∈ (d.world.registry m).listed t

/-- The listener lives at this moment and has been on the list all the time. -/
def Eligible (behaviour : Behaviour σ) (c : State σ) (m : ManagerId) (t : TypeId)
    (l : ListenerId) (i : Nat) : Prop :=
  (∃ d, after behaviour i c = some d ∧ d.world.isAlive l = true) ∧ Stays behaviour c m t l i

/-- At this moment the dispatch comes to the first of the listeners that are left. -/
def Turn (behaviour : Behaviour σ) (c : State σ) (m : ManagerId) (e : EventRef) (i : Nat)
    (rest : List ListenerId) : Prop :=
  ∃ frame tally w, after behaviour i c = some ⟨.walk m frame e rest tally, [], w⟩

/-- At this moment the dispatch calls a listener, whose answer takes so many steps. -/
def Answers (behaviour : Behaviour σ) (c : State σ) (l : ListenerId) (e : EventRef) (i k : Nat)
    (consumed : Bool) : Prop :=
  ∃ top w w', after behaviour i c = some ⟨.call l e, [top], w⟩ ∧
    after behaviour k ⟨.call l e, [], w⟩ = some ⟨.outcome (.returned consumed), [], w'⟩

/-- A dispatch, from a moment on, goes through the listeners that are left: whom it calls and
whether one of them consumes the event. -/
inductive Walked (behaviour : Behaviour σ) (c : State σ) (m : ManagerId) (e : EventRef) :
    Nat → List ListenerId → List ListenerId → Bool → Prop
  | finished : Walked behaviour c m e i [] [] false
  | passed (turn : Turn behaviour c m e i (l :: rest))
    (out : ¬ Eligible behaviour c m e.typeId l i)
    (later : Walked behaviour c m e (i + 1) rest called consumed) :
    Walked behaviour c m e i (l :: rest) called consumed
  | declined (turn : Turn behaviour c m e i (l :: rest))
    (eligible : Eligible behaviour c m e.typeId l i)
    (answer : Answers behaviour c l e (i + 1) k false)
    (later : Walked behaviour c m e (i + 1 + k + 1) rest called consumed) :
    Walked behaviour c m e i (l :: rest) (l :: called) consumed
  | consumed (turn : Turn behaviour c m e i (l :: rest))
    (eligible : Eligible behaviour c m e.typeId l i)
    (answer : Answers behaviour c l e (i + 1) k true) :
    Walked behaviour c m e i (l :: rest) [l] true

theorem Walked.sublist {m : ManagerId} {e : EventRef} {i : Nat} {rest called : List ListenerId}
    {consumed : Bool} (walked : Walked behaviour c m e i rest called consumed) :
    called.Sublist rest := by
  induction walked with
  | finished => exact .slnil
  | passed _ _ _ ih => exact ih.cons _
  | declined _ _ _ _ ih => exact ih.cons_cons _
  | consumed => exact (List.nil_sublist _).cons_cons _

/-- Who stays and lives is called, unless a listener before consumes the event. -/
theorem Walked.complete {m : ManagerId} {e : EventRef} {i : Nat} {rest called : List ListenerId}
    {consumed : Bool} (walked : Walked behaviour c m e i rest called consumed) {l : ListenerId}
    (inRest : l ∈ rest)
    (stays : ∀ j d, after behaviour j c = some d →
      d.world.isAlive l = true ∧ l ∈ (d.world.registry m).listed e.typeId) :
    l ∈ called ∨ consumed = true ∧ ∃ before last behind,
      rest = before ++ last :: behind ∧ called.getLast? = some last ∧ l ∈ behind := by
  induction walked with
  | finished => cases inRest
  | @passed i k rest called consumed turn out later ih =>
    rcases List.mem_cons.mp inRest with rfl | inRest
    · obtain ⟨frame, tally, w, here⟩ := turn
      exact (out ⟨⟨_, here, (stays i _ here).1⟩, fun j _ d run => (stays j d run).2⟩).elim
    · refine (ih inRest).imp_right ?_
      rintro ⟨ended, before, last, behind, parts, ends, member⟩
      exact ⟨ended, k :: before, last, behind, congrArg _ parts, ends, member⟩
  | @declined i k rest n called consumed _ _ _ _ ih =>
    rcases List.mem_cons.mp inRest with rfl | inRest
    · exact .inl (List.mem_cons_self ..)
    · refine (ih inRest).imp (List.mem_cons_of_mem _) ?_
      rintro ⟨ended, before, last, behind, parts, ends, member⟩
      refine ⟨ended, k :: before, last, behind, congrArg _ parts, ?_, member⟩
      rw [List.getLast?_cons, ends]
      rfl
  | @consumed i k rest n =>
    rcases List.mem_cons.mp inRest with rfl | inRest
    · exact .inl (List.mem_cons_self ..)
    · exact .inr ⟨rfl, [], k, rest, rfl, rfl, inRest⟩

/-- At its turn a listener is called above the dispatch, which keeps those that are left. -/
theorem Turn.calls {m : ManagerId} {e : EventRef} {i : Nat} {l : ListenerId}
    {rest : List ListenerId} (turn : Turn behaviour c m e i (l :: rest))
    (here : after behaviour (i + 1) c = some d) {k : ListenerId} {event : EventRef}
    (called : d.control = .call k event) :
    ∃ frame tally, d.stack = [.walk m frame e l rest tally] := by
  obtain ⟨frame, tally, w, before⟩ := turn
  rw [after_succ, before] at here
  cases here
  simp only [visit] at called ⊢
  split at called
  · cases called
  · split at called
    · cases called
    · rename_i alive stays
      rw [if_neg alive, if_neg stays]
      exact ⟨frame, _, rfl⟩

/-- Who stays and lives has to answer if nobody consumes the event before. -/
theorem Walked.answers {m : ManagerId} {e : EventRef} {i : Nat} {rest called : List ListenerId}
    {consumed : Bool} (walked : Walked behaviour c m e i rest called consumed) {l : ListenerId}
    (inRest : l ∈ rest)
    (stays : ∀ j d, after behaviour j c = some d →
      d.world.isAlive l = true ∧ l ∈ (d.world.registry m).listed e.typeId)
    (declined : ∀ j k rest n, Turn behaviour c m e j (k :: rest) → l ∈ rest →
      ¬ Answers behaviour c k e (j + 1) n true) :
    ∃ j n consumed, Answers behaviour c l e j n consumed := by
  induction walked with
  | finished => cases inRest
  | @passed i k rest called consumed turn out later ih =>
    rcases List.mem_cons.mp inRest with rfl | inRest
    · obtain ⟨frame, tally, w, here⟩ := turn
      exact (out ⟨⟨_, here, (stays i _ here).1⟩, fun j _ d run => (stays j d run).2⟩).elim
    · exact ih inRest
  | declined _ _ answer _ ih =>
    rcases List.mem_cons.mp inRest with rfl | inRest
    · exact ⟨_, _, _, answer⟩
    · exact ih inRest
  | consumed turn _ answer =>
    rcases List.mem_cons.mp inRest with rfl | inRest
    · exact ⟨_, _, _, answer⟩
    · exact (declined _ _ _ _ turn inRest answer).elim

/-! ### The frame of the dispatch -/

/-- The frame of a dispatch, which stands on those of the dispatches that were under way before
it, tells at a moment which living listeners of the list did not stay on it. -/
def Watches (behaviour : Behaviour σ) (c : State σ) (m : ManagerId) (t : TypeId)
    (list : List ListenerId) (frame : UInt64) (older i : Nat) (d : State σ) : Prop :=
  ∃ f, (d.world.registry m).frames.reverse[older]? = some f ∧ f.id = frame ∧ f.type = t ∧
    ∀ l ∈ list, d.world.isAlive l = true → (f.TellsOf l ↔ ¬ Stays behaviour c m t l i)

variable {m : ManagerId} {t : TypeId} {l : ListenerId} {i : Nat}

theorem stays_succ (here : after behaviour (i + 1) c = some d) :
    Stays behaviour c m t l (i + 1) ↔
      Stays behaviour c m t l i ∧ l ∈ (d.world.registry m).listed t := by
  constructor
  · intro stays
    exact ⟨fun j early => stays j (Nat.le_succ_of_le early), stays _ (Nat.le_refl _) d here⟩
  · rintro ⟨stays, isListed⟩ j early x run
    rcases Nat.lt_or_eq_of_le early with before | rfl
    · exact stays j (Nat.le_of_lt_succ before) x run
    · cases here.symm.trans run
      exact isListed

/-- A dispatch that is followed by itself: what waits beneath it, its list and its frame. -/
structure Watched (behaviour : Behaviour σ) (c : State σ) (base : List (Waiting σ))
    (m : ManagerId) (t : TypeId) (list : List ListenerId) : Prop where
  reachable : Reachable behaviour (c.over base)
  known : ∀ l ∈ list, l < c.world.listeners.size

theorem Watched.moment {base : List (Waiting σ)} {list : List ListenerId}
    (watched : Watched behaviour c base m t list) (here : after behaviour i c = some d) :
    Reachable behaviour (d.over base) ∧ ∀ l ∈ list, l < d.world.listeners.size := by
  refine ⟨watched.reachable.next ⟨i, after_over here base⟩, fun l inList => ?_⟩
  have ages : Ages c.world d.world :=
    Reaches.relates Ages.refl Ages.trans Acts.ages ⟨i, here⟩
  exact Nat.lt_of_lt_of_le (watched.known l inList) ages.size

/-- As long as the dispatch is under way, its frame goes on watching. -/
theorem Watches.step {x : State σ} {base : List (Waiting σ)} {list : List ListenerId}
    {frame : UInt64} (watched : Watched behaviour c base m t list)
    (watches : Watches behaviour c m t list frame (stackWalks m base).length i d)
    (here : after behaviour i c = some d) (moved : step behaviour d = some x)
    (open' : x.walks m ≠ []) :
    Watches behaviour c m t list frame (stackWalks m base).length (i + 1) x := by
  obtain ⟨f, found, rfl, rfl, tells⟩ := watches
  obtain ⟨reachable, known⟩ := watched.moment here
  have next := after_next here moved
  have lived (l : ListenerId) (inList : l ∈ list) (alive : x.world.isAlive l = true) :
      d.world.isAlive l = true := by
    cases before : d.world.isAlive l with
    | true => rfl
    | false =>
      rw [(step_acts moved).ages.gone l (known l inList) before] at alive
      cases alive
  have unchanged (lists : (x.world.registry m).listed f.type = (d.world.registry m).listed f.type) :
      ∀ l ∈ list, x.world.isAlive l = true →
        (f.TellsOf l ↔ ¬ Stays behaviour c m f.type l (i + 1)) := by
    intro l inList alive
    rw [tells l inList (lived l inList alive), stays_succ next, lists]
    have stays : Stays behaviour c m f.type l i → l ∈ (d.world.registry m).listed f.type :=
      fun stays => stays i (Nat.le_refl _) d here
    exact not_congr ⟨fun stay => ⟨stay, stays stay⟩, And.left⟩
  cases step_turns moved m with
  | alters walks altered =>
    obtain ⟨change, frames, notices⟩ := altered.frames
    refine ⟨change f, ?_, (notices f).id, (notices f).type, fun l inList alive => ?_⟩
    · rw [frames, ← List.map_reverse, List.getElem?_map, found, Option.map_some]
    · have before := lived l inList alive
      rw [stays_succ next]
      by_cases isListed : l ∈ (d.world.registry m).listed f.type
      · rw [(notices f).departure l isListed (by rw [isAlive_roll]; exact before),
          tells l inList before, Classical.not_and_iff_not_or_not]
      · have left : ¬ Stays behaviour c m f.type l i :=
          fun stays => isListed (stays i (Nat.le_refl _) d here)
        have told := (tells l inList before).mpr left
        exact ⟨fun _ both => left both.1, fun _ => (notices f).remembers l told⟩
  | opens walks opened =>
    have apart : x.walks m ≠ d.walks m := walks ▸ List.cons_ne_self _ _
    exact ⟨f, frame_stays reachable.balanced found moved apart open', rfl, rfl,
      unchanged (by rw [opened]; rfl)⟩
  | closes walks closed =>
    have apart : x.walks m ≠ d.walks m := walks ▸ (List.cons_ne_self _ _).symm
    exact ⟨f, frame_stays reachable.balanced found moved apart open', rfl, rfl,
      unchanged (by rw [closed]; rfl)⟩

theorem Watches.run {x : State σ} {base : List (Waiting σ)} {list : List ListenerId}
    {frame : UInt64} {n : Nat} (watched : Watched behaviour c base m t list)
    (watches : Watches behaviour c m t list frame (stackWalks m base).length i d)
    (here : after behaviour i c = some d) (run : after behaviour n d = some x)
    (open' : ∀ j ≤ n, ∀ y, after behaviour j d = some y → y.walks m ≠ []) :
    Watches behaviour c m t list frame (stackWalks m base).length (i + n) x := by
  induction n generalizing x with
  | zero =>
    cases run
    exact watches
  | succ n ih =>
    have whole := run
    rw [after_succ] at run
    obtain ⟨y, before, moved⟩ := Option.bind_eq_some_iff.mp run
    have middle := ih before fun j early => open' j (Nat.le_succ_of_le early)
    have there : after behaviour (i + n) c = some y := by
      rw [after_add, here]
      exact before
    exact middle.step watched there moved (open' (n + 1) (Nat.le_refl _) x whole)

/-- A frame watches from the moment on at which it is opened. -/
theorem watches_opened {base : List (Waiting σ)} {e : EventRef} {w : World σ}
    {list : List ListenerId} (heard : (w.registry m).table.list? e.typeId = some list)
    (watched : Watched behaviour ⟨.dispatch m e, [], w⟩ base m e.typeId list) :
    Watches behaviour ⟨.dispatch m e, [], w⟩ m e.typeId list (w.registry m).nextFrame
      (stackWalks m base).length 1
      ⟨.walk m (w.registry m).nextFrame e list {}, [], (w.beginDispatch m e).2⟩ := by
  have begun : step behaviour ⟨.dispatch m e, [], w⟩ = _ := step_dispatch_some heard
  have opened := beginDispatch_opens heard m
  rw [if_pos rfl] at opened
  refine ⟨{ id := (w.registry m).nextFrame, type := e.typeId },
    opened_newest heard watched.reachable.balanced, rfl, rfl, ?_⟩
  · intro l inList _
    have isListed : l ∈ (w.registry m).listed e.typeId := by
      rw [Registry.listed, heard]
      exact inList
    have next := after_one begun
    have stays : Stays behaviour ⟨.dispatch m e, [], w⟩ m e.typeId l 1 := by
      refine (stays_succ next).mpr ⟨fun j early d run => ?_, ?_⟩
      · cases Nat.le_zero.mp early
        cases run
        exact isListed
      · change l ∈ ((w.beginDispatch m e).2.registry m).listed e.typeId
        rw [opened]
        exact isListed
    exact ⟨fun told => by simp [Frame.TellsOf] at told, fun left => (left stays).elim⟩

/-- At its turn a listener is known by the frame. -/
theorem Watches.turn {base : List (Waiting σ)} {e : EventRef} {w : World σ} {frame : UInt64}
    {list rest : List ListenerId} {tally : Manager.Tally}
    (watched : Watched behaviour c base m e.typeId list)
    (watches : Watches behaviour c m e.typeId list frame (stackWalks m base).length i
      ⟨.walk m frame e rest tally, [], w⟩)
    (here : after behaviour i c = some ⟨.walk m frame e rest tally, [], w⟩)
    (inList : l ∈ list) (alive : w.isAlive l = true) :
    (w.manager m).registry.removedDuring frame l = true ↔
      ¬ Stays behaviour c m e.typeId l i := by
  obtain ⟨f, found, rfl, _, tells⟩ := watches
  have alone : State.walks m ⟨.walk m f.id e rest tally, [], w⟩ = [(f.id, e.typeId)] := by
    simp [State.walks, Control.walks, stackWalks]
  obtain ⟨others, frames⟩ := frame_newest (watched.moment here).1.balanced alone found
  rw [← tells l inList alive]
  exact Registry.removedDuring_newest frames

/-- While the call of a listener runs, the dispatch that called it is under way. -/
theorem walks_ne_nil_of_call {k : Nat} (run : after behaviour k c = some d) (frame : UInt64)
    (e : EventRef) (l : ListenerId) (rest : List ListenerId) (tally : Manager.Tally) :
    ∀ j ≤ k, ∀ y, after behaviour j (c.over [.walk m frame e l rest tally]) = some y →
      y.walks m ≠ [] := by
  intro j early y there
  obtain ⟨x, before⟩ := after_le run early
  rw [after_over before] at there
  cases there
  rw [walks_over]
  simp [stackWalks, Waiting.walks]

/-- From this state on the dispatch goes through the listeners that are left, and returns. -/
def Finishes (behaviour : Behaviour σ) (c : State σ) (m : ManagerId) (e : EventRef) (i : Nat)
    (rest : List ListenerId) (x : State σ) : Prop :=
  ∃ n consumed w', after behaviour n x = some ⟨.outcome (.returned consumed), [], w'⟩ ∧
    Walked behaviour c m e i rest (calls behaviour n x) consumed

namespace Finishes

variable {e : EventRef} {i k : Nat} {l : ListenerId} {rest : List ListenerId} {x y : State σ}
  {top : Waiting σ} {w v : World σ}

theorem passed (turn : Turn behaviour c m e i (l :: rest))
    (out : ¬ Eligible behaviour c m e.typeId l i) (moved : step behaviour x = some y)
    (silent : x.calling = none) (later : Finishes behaviour c m e (i + 1) rest y) :
    Finishes behaviour c m e i (l :: rest) x := by
  obtain ⟨n, consumed, w', run, walked⟩ := later
  refine ⟨n + 1, consumed, w', after_first moved run, ?_⟩
  rw [calls_silent moved silent]
  exact .passed turn out walked

theorem declined (turn : Turn behaviour c m e i (l :: rest))
    (eligible : Eligible behaviour c m e.typeId l i)
    (moved : step behaviour x = some ⟨.call l e, [top], w⟩) (silent : x.calling = none)
    (calledAt : after behaviour (i + 1) c = some ⟨.call l e, [top], w⟩)
    (run : after behaviour k ⟨.call l e, [], w⟩ = some ⟨.outcome (.returned false), [], v⟩)
    (resumed : step behaviour ⟨.outcome (.returned false), [top], v⟩ = some y)
    (later : Finishes behaviour c m e (i + 1 + k + 1) rest y) :
    Finishes behaviour c m e i (l :: rest) x := by
  obtain ⟨n, consumed, w', rest', walked⟩ := later
  have above : after behaviour k ⟨.call l e, [top], w⟩ =
      some ⟨.outcome (.returned false), [top], v⟩ := after_over run [top]
  refine ⟨k + (n + 1) + 1, consumed, w', ?_, ?_⟩
  · refine after_first moved ?_
    rw [after_add]
    exact Option.bind_eq_some_iff.mpr ⟨_, above, after_first resumed rest'⟩
  · rw [calls_silent moved silent, calls_add above, calls_call run, calls_silent resumed rfl]
    exact .declined turn eligible ⟨_, _, v, calledAt, run⟩ walked

theorem consumed (turn : Turn behaviour c m e i (l :: rest))
    (eligible : Eligible behaviour c m e.typeId l i)
    (moved : step behaviour x = some ⟨.call l e, [top], w⟩) (silent : x.calling = none)
    (calledAt : after behaviour (i + 1) c = some ⟨.call l e, [top], w⟩)
    (run : after behaviour k ⟨.call l e, [], w⟩ = some ⟨.outcome (.returned true), [], v⟩)
    {w' : World σ} (ended : step behaviour ⟨.outcome (.returned true), [top], v⟩ =
      some ⟨.outcome (.returned true), [], w'⟩) :
    Finishes behaviour c m e i (l :: rest) x := by
  have above : after behaviour k ⟨.call l e, [top], w⟩ =
      some ⟨.outcome (.returned true), [top], v⟩ := after_over run [top]
  refine ⟨k + 1 + 1, true, w', after_first moved (after_next above ended), ?_⟩
  rw [calls_silent moved silent, calls_add above 1, calls_call run]
  exact .consumed turn eligible ⟨_, _, v, calledAt, run⟩

end Finishes

/-- The dispatch comes to the listeners that are left. -/
theorem walks_rest {base : List (Waiting σ)} {e : EventRef} {list : List ListenerId}
    {frame : UInt64} (watched : Watched behaviour c base m e.typeId list)
    (returns : ∀ l top v, Reaches behaviour c ⟨.call l e, [top], v⟩ →
      ∃ consumed v', Reaches behaviour ⟨.call l e, [], v⟩ ⟨.outcome (.returned consumed), [], v'⟩)
    (rest : List ListenerId) (inList : rest ⊆ list) (tally : Manager.Tally) (w : World σ) (i : Nat)
    (here : after behaviour i c = some ⟨.walk m frame e rest tally, [], w⟩)
    (watches : Watches behaviour c m e.typeId list frame (stackWalks m base).length i
      ⟨.walk m frame e rest tally, [], w⟩) :
    Finishes behaviour c m e i rest ⟨.walk m frame e rest tally, [], w⟩ := by
  induction rest generalizing tally w i with
  | nil => exact ⟨1, false, w.conclude m frame e false tally, rfl, .finished⟩
  | cons l rest ih =>
    have turn : Turn behaviour c m e i (l :: rest) := ⟨frame, tally, w, here⟩
    have others : rest ⊆ list := List.subset_of_cons_subset inList
    have underway (tally : Manager.Tally) (w : World σ) :
        (⟨.walk m frame e rest tally, [], w⟩ : State σ).walks m ≠ [] := by
      simp [State.walks, Control.walks]
    have pass (tally' : Manager.Tally) (v : World σ)
        (moved : step behaviour ⟨.walk m frame e (l :: rest) tally, [], w⟩ =
          some ⟨.walk m frame e rest tally', [], v⟩)
        (out : ¬ Eligible behaviour c m e.typeId l i) :
        Finishes behaviour c m e i (l :: rest) ⟨.walk m frame e (l :: rest) tally, [], w⟩ := by
      have next := after_next here moved
      have watching := watches.step watched here moved (underway tally' v)
      exact .passed turn out moved rfl (ih others tally' v (i + 1) next watching)
    by_cases gone : w.isAlive l = false
    · refine pass _ _ (by simp only [step, visit, if_pos gone]; rfl) ?_
      rintro ⟨⟨d, run, alive⟩, _⟩
      cases here.symm.trans run
      rw [gone] at alive
      cases alive
    have alive : w.isAlive l = true := by simpa using gone
    have known := watches.turn watched here (inList (List.mem_cons_self ..)) alive
    by_cases left : (w.manager m).registry.removedDuring frame l = true
    · refine pass tally w (by simp only [step, visit, if_neg gone, if_pos left]) ?_
      exact fun eligible => known.mp left eligible.2
    have eligible : Eligible behaviour c m e.typeId l i :=
      ⟨⟨_, here, alive⟩, Classical.not_not.mp fun out => left (known.mpr out)⟩
    have moved : step behaviour ⟨.walk m frame e (l :: rest) tally, [], w⟩ =
        some ⟨.call l e, [.walk m frame e l rest { tally with invoked := tally.invoked + 1 }],
          w.invoke m frame l e⟩ := by
      simp only [step, visit, if_neg gone, if_neg left]
    generalize { tally with invoked := tally.invoked + 1 } = tally' at moved
    have calledAt := after_next here moved
    obtain ⟨consumed, v, k, run⟩ := returns _ _ _ ⟨i + 1, calledAt⟩
    cases consumed with
    | true => exact .consumed turn eligible moved rfl calledAt run rfl
    | false =>
      have resumed : step behaviour
          ⟨.outcome (.returned false), [.walk m frame e l rest tally'], v⟩ =
          some ⟨.walk m frame e rest tally', [], v.leave l⟩ := rfl
      have above := after_over run [.walk m frame e l rest tally']
      have answeredAt : after behaviour (i + 1 + k) c =
          some ⟨.outcome (.returned false), [.walk m frame e l rest tally'], v⟩ := by
        rw [after_add, calledAt]
        exact above
      -- the call itself and the step that resumes the walk keep the watch
      have during := walks_ne_nil_of_call (m := m) run frame e l rest tally'
      have watching := (watches.step watched here moved (during 0 (Nat.zero_le k) _ rfl)).run
        watched calledAt above during
      have next := after_next answeredAt resumed
      exact .declined turn eligible moved rfl calledAt run resumed
        (ih others tally' (v.leave l) _ next
          (watching.step watched answeredAt resumed (underway tally' (v.leave l))))

/-- A dispatch whose listeners return goes through the list that its category had when it
began. -/
theorem dispatch_walked {e : EventRef} {stack : List (Waiting σ)} {w : World σ}
    (reachable : Reachable behaviour ⟨.dispatch m e, stack, w⟩)
    (returns : ∀ l top v, Reaches behaviour ⟨.dispatch m e, [], w⟩ ⟨.call l e, [top], v⟩ →
      ∃ consumed v', Reaches behaviour ⟨.call l e, [], v⟩ ⟨.outcome (.returned consumed), [], v'⟩) :
    ∃ n consumed w',
      after behaviour n ⟨.dispatch m e, [], w⟩ = some ⟨.outcome (.returned consumed), [], w'⟩ ∧
      Walked behaviour ⟨.dispatch m e, [], w⟩ m e 1 ((w.registry m).listed e.typeId)
        (calls behaviour n ⟨.dispatch m e, [], w⟩) consumed := by
  cases heard : (w.registry m).table.list? e.typeId with
  | none =>
    have moved : step behaviour ⟨.dispatch m e, [], w⟩ = _ := step_dispatch_none heard
    have nobody : (w.registry m).listed e.typeId = [] := by rw [Registry.listed, heard]; rfl
    have silent : calls behaviour 1 ⟨.dispatch m e, [], w⟩ = [] := by
      simp only [calls, moved, State.calling, Option.toList_none, List.append_nil]
    refine ⟨1, false, _, after_one moved, ?_⟩
    rw [nobody, silent]
    exact .finished
  | some list =>
    have begun : step behaviour ⟨.dispatch m e, [], w⟩ = _ := step_dispatch_some heard
    have isList : (w.registry m).listed e.typeId = list := by rw [Registry.listed, heard]; rfl
    have watched : Watched behaviour ⟨.dispatch m e, [], w⟩ stack m e.typeId list :=
      ⟨reachable, fun l inList => reachable.settled.listed m e.typeId l (isList ▸ inList)⟩
    obtain ⟨n, consumed, w', run, walked⟩ := walks_rest watched returns list (fun _ => id) {} _ 1
      (after_one begun) (watches_opened heard watched)
    refine ⟨n + 1, consumed, w', after_first begun run, ?_⟩
    rw [isList, calls_silent begun rfl]
    exact walked

/-- A dispatch whose listeners return calls exactly the listeners of the list its category had
when it began that live at their turn and have been on the list all the time, in order, until
one of them consumes the event; it returns, and tells whether one did. So nobody is called
twice, nobody who was connected meanwhile is called, and whoever lives and stays on the list is
called unless the walk ended before. -/
theorem dispatch_calls_those_who_stayed {e : EventRef} {stack : List (Waiting σ)} {w : World σ}
    (reachable : Reachable behaviour ⟨.dispatch m e, stack, w⟩)
    (returns : ∀ l top v, Reaches behaviour ⟨.dispatch m e, [], w⟩ ⟨.call l e, [top], v⟩ →
      ∃ consumed v', Reaches behaviour ⟨.call l e, [], v⟩ ⟨.outcome (.returned consumed), [], v'⟩) :
    ∃ n consumed w',
      after behaviour n ⟨.dispatch m e, [], w⟩ = some ⟨.outcome (.returned consumed), [], w'⟩ ∧
      after behaviour n ⟨.dispatch m e, stack, w⟩ =
        some ⟨.outcome (.returned consumed), stack, w'⟩ ∧
      (let list := (w.registry m).listed e.typeId
       let called := calls behaviour n ⟨.dispatch m e, [], w⟩
       Walked behaviour ⟨.dispatch m e, [], w⟩ m e 1 list called consumed ∧
       called.Nodup ∧ called.Sublist list ∧
       ∀ l ∈ list, (∀ i d, after behaviour i ⟨.dispatch m e, [], w⟩ = some d →
          d.world.isAlive l = true ∧ l ∈ (d.world.registry m).listed e.typeId) →
        l ∈ called ∨ consumed = true ∧ ∃ before last behind,
          list = before ++ last :: behind ∧ called.getLast? = some last ∧ l ∈ behind) := by
  obtain ⟨n, consumed, w', run, walked⟩ := dispatch_walked reachable returns
  have nodup := walked.sublist.nodup (reachable.settled.nodup m e.typeId)
  exact ⟨n, consumed, w', run, after_over run stack, walked, nodup, walked.sublist,
    fun l inList stays => walked.complete inList stays⟩

/-- What can be computed where a program asks for an operation. -/
def State.atCall (check : Op → World σ → Bool) (c : State σ) : Bool :=
  match c.control with
  | .program (.call op _) => check op c.world
  | _ => false

theorem atCall_sound {check : Op → World σ → Bool} (checked : c.atCall check = true) :
    ∃ op next stack w, c = ⟨.program (.call op next), stack, w⟩ ∧ check op w = true := by
  obtain ⟨control, stack, w⟩ := c
  cases control with
  | program p =>
    cases p with
    | call op next => exact ⟨op, next, stack, w, rfl, checked⟩
    | _ => cases checked
  | _ => cases checked

/-- What can be computed where a host comes to a dispatch. -/
def State.atDispatch (check : ManagerId → EventRef → World σ → Bool) (c : State σ) : Bool :=
  match c.control with
  | .dispatch m e => check m e c.world
  | _ => false

theorem atDispatch_sound {check : ManagerId → EventRef → World σ → Bool}
    (checked : c.atDispatch check = true) :
    ∃ m e stack w, c = ⟨.dispatch m e, stack, w⟩ ∧ check m e w = true := by
  obtain ⟨control, stack, w⟩ := c
  cases control with
  | dispatch m e => exact ⟨m, e, stack, w, rfl, checked⟩
  | _ => cases checked

/-- What can be computed where a host comes to a drain. -/
def State.atExecute (check : ManagerId → Option Duration → World σ → Bool) (c : State σ) : Bool :=
  match c.control with
  | .execute m budget => check m budget c.world
  | _ => false

theorem atExecute_sound {check : ManagerId → Option Duration → World σ → Bool}
    (checked : c.atExecute check = true) :
    ∃ m budget stack w, c = ⟨.execute m budget, stack, w⟩ ∧ check m budget w = true := by
  obtain ⟨control, stack, w⟩ := c
  cases control with
  | execute m budget => exact ⟨m, budget, stack, w, rfl, checked⟩
  | _ => cases checked

/-- Whether a run that nothing waits for has returned with this answer. -/
def State.hasReturned (consumed : Bool) (c : State σ) : Bool :=
  match c.control with
  | .outcome (.returned answer) => answer == consumed && c.stack.isEmpty
  | _ => false

theorem hasReturned_iff {consumed : Bool} :
    c.hasReturned consumed = true ↔ ∃ w, c = ⟨.outcome (.returned consumed), [], w⟩ := by
  obtain ⟨control, stack, w⟩ := c
  cases control with
  | outcome o => cases o <;> simp [State.hasReturned]
  | _ => simp [State.hasReturned]

/-- Whether a run that nothing waits for has ended with this panic. -/
def State.hasPanicked (message : String) (c : State σ) : Bool :=
  match c.control with
  | .outcome (.panicked told) => told == message && c.stack.isEmpty
  | _ => false

theorem hasPanicked_iff {message : String} :
    c.hasPanicked message = true ↔ ∃ w, c = ⟨.outcome (.panicked message), [], w⟩ := by
  obtain ⟨control, stack, w⟩ := c
  cases control with
  | outcome o => cases o <;> simp [State.hasPanicked]
  | _ => simp [State.hasPanicked]

/-- The first listener takes the second one off the list, connects it again and connects a
fourth one; the third one consumes the event. The second one was away, and the fourth one is new. -/
theorem dispatch_passes_over_the_reconnected :
    let t : TypeId := ⟨7⟩
    let behaviour : Behaviour Unit := fun l _ =>
      match l with
      | 0 => do
        let _ ← Program.ask (.tryDisconnect 0 1 t)
        let _ ← Program.ask (.tryConnect 0 1 t)
        let _ ← Program.ask (.tryConnect 0 3 t)
        pure false
      | 2 => pure true
      | _ => pure false
    let host : Program Unit Bool := do
      let m ← Program.ask (.newManager default)
      let first ← Program.ask (.newListener "first" .custom)
      let second ← Program.ask (.newListener "second" .custom)
      let third ← Program.ask (.newListener "third" .custom)
      let _ ← Program.ask (.newListener "fourth" .custom)
      let _ ← Program.ask (.tryConnect m first t)
      let _ ← Program.ask (.tryConnect m second t)
      let _ ← Program.ask (.tryConnect m third t)
      Program.dispatchNew m (.plain t)
    ∃ e stack w n w', Reaches behaviour (start host ()) ⟨.dispatch 0 e, stack, w⟩ ∧
      (w.registry 0).listed e.typeId = [0, 1, 2] ∧
      after behaviour n ⟨.dispatch 0 e, [], w⟩ = some ⟨.outcome (.returned true), [], w'⟩ ∧
      Walked behaviour ⟨.dispatch 0 e, [], w⟩ 0 e 1 [0, 1, 2] [0, 2] true := by
  intro t behaviour host
  have ran : (after behaviour 10 (start host ())).any (State.atDispatch fun m e w => m == 0 &&
      ((w.registry m).listed e.typeId == [0, 1, 2] &&
        calls behaviour 13 ⟨.dispatch m e, [], w⟩ == [0, 2]) &&
      (after behaviour 13 ⟨.dispatch m e, [], w⟩).any (State.hasReturned true)) = true := by cbv
  obtain ⟨c, run, told⟩ := (Option.any_eq_true ..).mp ran
  obtain ⟨m, e, stack, w, rfl, checked⟩ := atDispatch_sound told
  simp only [Bool.and_eq_true, beq_iff_eq] at checked
  obtain ⟨⟨rfl, listed, called⟩, ended⟩ := checked
  obtain ⟨d, last, returned⟩ := (Option.any_eq_true ..).mp ended
  obtain ⟨w', rfl⟩ := hasReturned_iff.mp returned
  have returns : ∀ l top v, Reaches behaviour ⟨.dispatch 0 e, [], w⟩ ⟨.call l e, [top], v⟩ →
      ∃ consumed v', Reaches behaviour ⟨.call l e, [], v⟩
        ⟨.outcome (.returned consumed), [], v'⟩ := by
    intro l top v _
    refine call_returns ?_
    simp only [behaviour]
    split
    · exact ⟨false, _, 4, rfl⟩
    · exact ⟨true, _, 1, rfl⟩
    · exact ⟨false, _, 1, rfl⟩
  obtain ⟨n, consumed, v, whole, _, walked, _⟩ :=
    dispatch_calls_those_who_stayed ⟨host, (), 10, run⟩ returns
  cases after_ended whole last
  cases whole.symm.trans last
  rw [listed, called] at walked
  exact ⟨e, stack, w, 13, w', ⟨10, run⟩, listed, last, walked⟩

end EventEngine.Machine
