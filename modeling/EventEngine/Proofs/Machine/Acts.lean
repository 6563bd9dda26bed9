import EventEngine.Proofs.Machine.Moves

/-! What one step of a run does to the world. Whatever every act preserves, every step
preserves, and so does every run. -/
namespace EventEngine.Machine

variable {σ : Type}

/-- The acts on the world that steps are made of. -/
inductive Acts : World σ → World σ → Prop
  | rests : Acts w w
  | remembers : Acts w { w with memory }
  | carriesOut {op : Op} {result : op.Reply × World σ} (carried : w.carryOut op = some result) :
    Acts w result.2
  | enters (alive : w.isAlive l = true) : Acts w (w.enter l)
  | leaves : Acts w (w.leave l)
  | receivesQuit : Acts w (w.receiveQuit l e).2
  | countsFrame (role : (w.listener l).role = .frames updates renders) :
    Acts w (w.countFrame l updates renders e)
  | beginsDispatch : Acts w (w.beginDispatch m e).2
  | prunes (gone : w.isAlive l = false) : Acts w (w.pruneOne m frame t l).2
  | invokes (alive : w.isAlive l = true) : Acts w (w.invoke m frame l e)
  | concludes : Acts w (w.conclude m frame e false tally)
  | consumes : Acts w ((w.consume m frame l e).conclude m frame e true tally)
  | unwindsDispatch : Acts w ((w.leave l).unwindDispatch m frame)
  | beginsDrain : Acts w (w.beginDrain m).2
  | takes : Acts w (w.takeDue m budget started delivered).2
  | stopsTaking : Acts w ((w.takeDue m budget started delivered).2.finishDrain m delivered).2
  | finishesDrain : Acts w (w.finishDrain m delivered).2
  | unwindsDrain : Acts w (w.unwindDrain m)

variable {behaviour : Behaviour σ} {c d : State σ}

/-- Every step is an act. -/
theorem step_acts (moved : step behaviour c = some d) : Acts c.world d.world := by
  cases step_moves moved with
  | changes => exact .remembers
  | carriesOut carried => exact .carriesOut carried
  | callsListener alive => exact .enters alive
  | receivesQuit => exact .receivesQuit
  | countsFrame role => exact .countsFrame role
  | unheard | heard => exact .beginsDispatch
  | prunes gone => exact .prunes gone
  | visits alive => exact .invokes alive
  | concludes => exact .concludes
  | refuses | begins => exact .beginsDrain
  | takes => exact .takes
  | stops => exact .stopsTaking
  | ends => exact .finishesDrain
  | answersCaller | panicsCaller | declines => exact .leaves
  | consumes => exact .consumes
  | unwindsDispatch => exact .unwindsDispatch
  | unwindsDrain => exact .unwindsDrain
  | _ => exact .rests

/-- A relation that links the world before every act to the world after it links the ends of
every run. -/
theorem Reaches.relates {R : World σ → World σ → Prop} (refl : ∀ w, R w w)
    (trans : ∀ {a b c}, R a b → R b c → R a c) (acts : ∀ {a b}, Acts a b → R a b)
    (run : Reaches behaviour c d) : R c.world d.world := by
  have keeps : ∀ a b : State σ, R c.world a.world → step behaviour a = some b →
      R c.world b.world := fun a b before moved => trans before (acts (step_acts moved))
  exact run.invariant (P := fun a => R c.world a.world) keeps (refl _)

end EventEngine.Machine
