import EventEngine.Proofs.Machine.Acts
import EventEngine.Proofs.Machine.Becomes
import EventEngine.Proofs.Time.Readings

/-! Clocks in the course of a run. Whatever is done with a manager that was made, its clock is only
read or moved forward, so it keeps what it has promised about its readings. -/
namespace EventEngine

/-- What a clock promised it still keeps: not to go back, and not to show less than some point. -/
structure Clock.Keeps (c d : Clock) : Prop where
  monotonic : c.Monotonic → d.Monotonic
  reaches : ∀ point, c.Reaches point → d.Reaches point

namespace Clock.Keeps

variable {c d : Clock}

theorem refl (c : Clock) : c.Keeps c := ⟨id, fun _ => id⟩

theorem trans {e : Clock} (first : c.Keeps d) (second : d.Keeps e) : c.Keeps e :=
  ⟨fun monotonic => second.monotonic (first.monotonic monotonic),
    fun point reaches => second.reaches point (first.reaches point reaches)⟩

theorem read (c : Clock) : c.Keeps c.read.2 := by
  refine ⟨fun monotonic => ?_, fun _ => Reaches.read⟩
  cases c with
  | manual now => trivial
  | sampled record taken => exact fun j k later => monotonic j k (Nat.le_of_succ_le later)

theorem advance (c : Clock) (step : Duration) : c.Keeps (c.advance step) := by
  refine ⟨fun monotonic => ?_, fun _ reaches => reaches.advance step⟩
  cases c <;> exact monotonic

theorem set (c : Clock) (target : Timestamp) : c.Keeps (c.set target) := by
  refine ⟨fun monotonic => ?_, fun _ reaches => reaches.set target⟩
  cases c <;> exact monotonic

end Clock.Keeps

namespace Manager

variable {x : Manager} {roll : Roll}

theorem serve_clock (r : Request) : x.clock.Keeps (r.serve roll x).clock := by
  cases r with
  | connect l t =>
    simp only [Request.serve, connect]
    split <;> exact .refl _
  | disconnect l t =>
    simp only [Request.serve, disconnect]
    split <;> exact .refl _
  | readClock => exact .read _
  | advance step => exact .advance _ step
  | setClock target => exact .set _ target
  | hold | clearListeners | pruneStale | enqueue | dequeue | clearQueue => exact .refl _

theorem beginDrain_clock : x.clock.Keeps x.beginDrain.2.clock := by
  unfold beginDrain
  split
  · exact .refl _
  · exact .read _

theorem takeDue_clock (budget : Option Duration) (started : Timestamp) :
    x.clock.Keeps (x.takeDue budget started).2.clock := by
  simp only [takeDue]
  split
  · exact .read _
  · split <;> exact .read _

end Manager

namespace World

variable {σ : Type} {w w' w'' : World σ} {n : ManagerId} {x : Manager}

/-- Managers that were made keep what their clocks have promised. -/
structure KeepsClocks (w w' : World σ) : Prop where
  size : w.managers.size ≤ w'.managers.size
  clocks : ∀ m < w.managers.size, (w.manager m).clock.Keeps (w'.manager m).clock

namespace KeepsClocks

theorem of_eq (same : w'.managers = w.managers) : KeepsClocks w w' where
  size := Nat.le_of_eq (congrArg Store.size same.symm)
  clocks := fun m _ => by
    rw [manager, manager, same]
    exact .refl _

theorem refl (w : World σ) : KeepsClocks w w := of_eq rfl

theorem trans (first : KeepsClocks w w') (second : KeepsClocks w' w'') : KeepsClocks w w'' where
  size := Nat.le_trans first.size second.size
  clocks := fun m made =>
    (first.clocks m made).trans (second.clocks m (Nat.lt_of_lt_of_le made first.size))

theorem ofBecomes (becomes : Becomes n x w w') (keeps : (w.manager n).clock.Keeps x.clock) :
    KeepsClocks w w' where
  size := by
    rw [becomes.size]
    exact Nat.le_max_left ..
  clocks := fun m _ => by
    rw [becomes.managers]
    split
    · rename_i same
      exact same ▸ keeps
    · exact .refl _

theorem modify {f : Manager → Manager} (keeps : (w.manager n).clock.Keeps (f (w.manager n)).clock) :
    KeepsClocks w (w.modifyManager n f) :=
  .ofBecomes (.modify rfl) keeps

end KeepsClocks

theorem newManager_clocks (clock : Clock) : KeepsClocks w (w.newManager clock).2 := by
  have made : KeepsClocks w { w with managers := w.managers.push (.fresh clock) } := by
    refine ⟨by simp, fun m made => ?_⟩
    simp only [manager, Store.get_push, if_neg (Nat.ne_of_lt made)]
    exact .refl _
  simp only [newManager]
  split <;> exact made.trans (.of_eq rfl)

theorem readClock_clocks (w : World σ) (m : ManagerId) : KeepsClocks w (w.readClock m).2 :=
  .modify (.read _)

/-- A clock that does not go back has reached what was read from it. -/
theorem readClock_reaches {m : ManagerId} (monotonic : (w.manager m).clock.Monotonic) :
    ((w.readClock m).2.manager m).clock.Reaches (w.readClock m).1 := by
  have clock : ((w.readClock m).2.manager m).clock = (w.manager m).clock.read.2 := by
    simp [readClock, Manager.readClock]
  rw [clock]
  exact monotonic.reaches.read

theorem carryOut_clocks {op : Op} {result : op.Reply × World σ}
    (carried : w.carryOut op = some result) : KeepsClocks w result.2 := by
  cases asks : op.request? with
  | some asked => exact .ofBecomes (carryOut_becomes asks carried) (Manager.serve_clock _)
  | none =>
    cases op with
    | newManager clock =>
      cases carried
      exact newManager_clocks clock
    | releaseManager m =>
      cases carried
      have released : KeepsClocks w (w.modifyManager m (·.release)) := .modify (.refl _)
      simp only [releaseManager]
      split
      · exact released.trans (.of_eq rfl)
      · exact released
    | acquireCurrent =>
      cases carried
      simp only [acquireCurrent]
      split
      · exact .modify (.refl _)
      · exact .refl w
    | callListener | dispatch | execute => cases carried
    | newListener | dropListener | isCurrent | nameOf | roleOf | newEvent | inspect | validate
    | note =>
      cases carried
      exact .of_eq rfl
    | _ => cases asks

theorem beginDispatch_clocks (m : ManagerId) (e : EventRef) :
    KeepsClocks w (w.beginDispatch m e).2 := by
  cases heard : (w.manager m).registry.table.list? e.typeId with
  | none =>
    obtain ⟨w', begun, becomes⟩ := beginDispatch_unheard heard
    rw [begun]
    exact .ofBecomes becomes (.refl _)
  | some list =>
    obtain ⟨w', begun, becomes⟩ := beginDispatch_heard heard
    rw [begun]
    exact .ofBecomes becomes (.refl _)

theorem conclude_clocks (m : ManagerId) (frame : UInt64) (e : EventRef) (consumed : Bool)
    (tally : Manager.Tally) : KeepsClocks w (w.conclude m frame e consumed tally) :=
  .ofBecomes (conclude_becomes ..) (.refl _)

theorem beginDrain_clocks (m : ManagerId) : KeepsClocks w (w.beginDrain m).2 := by
  obtain ⟨w', begun, becomes⟩ := beginDrain_becomes (w := w) m
  rw [begun]
  exact .ofBecomes becomes Manager.beginDrain_clock

theorem takeDue_clocks (m : ManagerId) (budget : Option Duration) (started : Timestamp)
    (delivered : Nat) : KeepsClocks w (w.takeDue m budget started delivered).2 := by
  obtain ⟨w', took, becomes⟩ := takeDue_becomes (w := w) m budget started delivered
  rw [took]
  exact .ofBecomes becomes (Manager.takeDue_clock budget started)

theorem finishDrain_clocks (m : ManagerId) (delivered : Nat) :
    KeepsClocks w (w.finishDrain m delivered).2 := by
  obtain ⟨w', finished, becomes⟩ := finishDrain_becomes (w := w) m delivered
  rw [finished]
  exact .ofBecomes becomes (.refl _)

end World

namespace Machine

open World

variable {σ : Type} {behaviour : Behaviour σ} {c d : State σ} {w w' : World σ}

theorem Acts.clocks (act : Acts w w') : KeepsClocks w w' := by
  cases act with
  | carriesOut carried => exact carryOut_clocks carried
  | receivesQuit =>
    unfold receiveQuit
    split <;> exact .of_eq rfl
  | countsFrame =>
    unfold countFrame
    split <;> exact .of_eq rfl
  | beginsDispatch => exact beginDispatch_clocks ..
  | prunes => exact .ofBecomes (pruneOne_becomes ..) (.refl _)
  | concludes => exact conclude_clocks ..
  | consumes =>
    refine .trans ?_ (conclude_clocks ..)
    exact .of_eq rfl
  | unwindsDispatch =>
    refine .trans ?_ (.ofBecomes ((closeFrame_becomes ..).note rfl) (.refl _))
    exact .of_eq rfl
  | beginsDrain => exact beginDrain_clocks _
  | takes => exact takeDue_clocks ..
  | stopsTaking => exact .trans (takeDue_clocks ..) (finishDrain_clocks ..)
  | finishesDrain => exact finishDrain_clocks ..
  | unwindsDrain => exact .ofBecomes ((endDrain_becomes _).note rfl) (.refl _)
  | rests | remembers | enters | leaves | invokes => exact .of_eq rfl

theorem Reaches.clocks (run : Reaches behaviour c d) : KeepsClocks c.world d.world :=
  run.relates .refl .trans Acts.clocks

end Machine
end EventEngine
