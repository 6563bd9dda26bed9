import EventEngine.Listener.Registry
import EventEngine.Event.Debug
import EventEngine.Log.Record

/-! What happens in a run, in order. Some happenings are reported to the log, at the
level and in the words given here; the others only make the history of a run
complete. -/
namespace EventEngine

/-- Managers are told apart by number. -/
abbrev ManagerId := Nat

/-- What a program tells of itself. Everything else that happens is noted by the world. -/
inductive Notice
  | connectRefused (m : ManagerId) (error : RegistrationError)
  | disconnectRefused (m : ManagerId) (error : RegistrationError)
  | loopStarted (intervalMillis limit : Nat)
  | tickLimitReached (limit : Nat)
  | eventsLeft (tick active : Nat)
  | signalReceived (name : String)
  | shutdownRequested
  /-- A quit was requested without a process-wide manager. -/
  | quitUnheard
  /-- A line of the host program. -/
  | said (record : Log.Record)
  deriving DecidableEq, Repr

inductive Happening
  /-- A manager became the process-wide one. -/
  | installed (m : ManagerId)
  /-- A manager was made while another was process-wide. -/
  | shadowed (m : ManagerId)
  /-- The process-wide manager is gone. -/
  | uninstalled (m : ManagerId)
  | connected (m : ManagerId) (l : ListenerId) (type : TypeId) (name : String)
  | disconnected (m : ManagerId) (l : ListenerId) (type : TypeId) (name : String)
  | cleared (m : ManagerId) (count : Nat)
  | prunedAll (m : ManagerId) (count : Nat)
  | dispatched (m : ManagerId) (e : EventRef)
  /-- The category of a dispatched event has no list. -/
  | unheard (m : ManagerId) (e : EventRef)
  | opened (m : ManagerId) (frame : UInt64) (type : TypeId) (depth : Nat)
  /-- A dispatch removed a listener that is gone. -/
  | pruned (m : ManagerId) (frame : UInt64) (l : ListenerId)
  | invoked (m : ManagerId) (frame : UInt64) (l : ListenerId) (e : EventRef)
  | consumed (m : ManagerId) (frame : UInt64) (l : ListenerId) (e : EventRef) (name : String)
  | closed (m : ManagerId) (frame : UInt64) (consumed mutated : Bool)
  /-- A frame was closed because a listener panicked. -/
  | unwound (m : ManagerId) (frame : UInt64)
  | anomaly (m : ManagerId) (e : EventRef)
  | prunedFrom (m : ManagerId) (type : TypeId) (count : Nat)
  | queued (m : ManagerId) (e : EventRef)
  /-- One event, or all of its category, were cancelled: so many, and these. -/
  | dequeued (m : ManagerId) (e : EventRef) (all : Bool) (count : Nat) (removed : List EventRef)
  /-- The queue was cleared: of so many events, and these. -/
  | dropped (m : ManagerId) (count : Nat) (removed : List EventRef)
  | drainRefused (m : ManagerId)
  /-- The pending buffer became active, in this order. -/
  | swapped (m : ManagerId) (batch : List EventRef)
  | drainStarted (m : ManagerId) (active : Nat)
  | handedOver (m : ManagerId) (e : EventRef)
  | budgetExhausted (m : ManagerId) (budget : Duration) (delivered : Nat)
  | drainFinished (m : ManagerId) (delivered : Nat) (drained : Bool)
  /-- A drain ended because a listener panicked. -/
  | drainUnwound (m : ManagerId)
  | quitReceived (l : ListenerId) (exitCode : Int32)
  | told (notice : Notice)
  deriving DecidableEq, Repr

namespace Log

/-- The parts of the program that report. -/
inductive Source
  | core
  | handlers
  | management
  | registry
  | dispatch
  | engine
  | signals
  | host
  | logging
  deriving DecidableEq, Repr

def Source.target : Source → String
  | core => "zenith_event_system::system::core"
  | handlers => "zenith_event_system::system::handlers"
  | management => "zenith_event_system::system::management"
  | registry => "zenith_event_system::system::registry"
  | dispatch => "zenith_event_system::system::dispatch"
  | engine => "zenith::engine"
  | signals => "zenith::signals"
  | host => "zenith"
  | logging => "zenith::logging"

def Source.record (source : Source) (level : Level) (message : String)
    (fields : List (String × Value) := []) : Record :=
  { level, target := source.target, message, fields }

end Log

open Log (Record Source Value)

def Notice.record : Notice → Record
  | connectRefused _ error =>
    Source.handlers.record .warn s!"⚠️ Connect refused: {error.message}"
  | disconnectRefused _ error =>
    Source.handlers.record .warn s!"⚠️ Disconnect refused: {error.message}"
  | loopStarted intervalMillis limit =>
    Source.engine.record .info s!"🎮 Engine loop started ({intervalMillis} ms ticks, limit {limit})"
  | tickLimitReached limit => Source.engine.record .debug s!"Tick limit of {limit} reached"
  | eventsLeft tick active => Source.engine.record .debug "events left for the next tick"
      [("tick", .nat tick), ("pending", .nat active)]
  | signalReceived name => Source.signals.record .info s!"📡 Received {name}"
  | shutdownRequested =>
    Source.signals.record .info "🛑 Shutdown signal received, requesting quit"
  | quitUnheard =>
    Source.signals.record .warn "⚠️ Quit requested but no event manager is installed"
  | said record => record

namespace Happening

/-- The log record of a happening, for those that are reported. -/
def record? : Happening → Option Record
  | installed _ => Source.core.record .info "📡 Event manager installed as process-wide instance"
  | shadowed _ => Source.core.record .warn
      "⚠️ An event manager instance already exists; the new manager will not be globally reachable"
  | uninstalled _ => Source.core.record .debug "Event manager removed as process-wide instance"
  | connected _ _ type name => Source.handlers.record .debug s!"🔗 Connected '{name}' to {type}"
  | disconnected _ _ type name =>
    Source.handlers.record .debug s!"✂️ Disconnected '{name}' from {type}"
  | cleared _ count =>
    Source.management.record .info s!"🧹 Cleared {count} listener registration(s)"
  | prunedAll _ count =>
    if count = 0 then none
    else Source.management.record .debug s!"🧹 Pruned {count} dropped listener(s)"
  | unheard _ e => Source.dispatch.record .trace "no listeners registered"
      [("event_type", .shown (toString e.typeId))]
  | opened _ _ type depth => Source.registry.record .trace "dispatch frame opened"
      [("depth", .nat depth), ("event_type", .shown (toString type))]
  | consumed _ _ _ e name => Source.dispatch.record .trace "event consumed"
      [("listener", .text name), ("event_type", .shown (toString e.typeId))]
  | anomaly _ e => Source.dispatch.record .error
      s!"❌ Listeners for {e.typeId} changed while {e.event.debug} was being dispatched and no listener consumed it"
  | prunedFrom _ type count =>
    Source.dispatch.record .debug s!"🧹 Pruned {count} dropped listener(s) from {type}"
  | queued _ e => Source.dispatch.record .trace "event queued"
      [("event_type", .shown (toString e.typeId)), ("priority", .shown (toString e.priority))]
  | dequeued _ e _ count _ =>
    if count = 0 then none
    else Source.dispatch.record .trace "events dequeued"
      [("event_type", .shown (toString e.typeId)), ("removed", .nat count)]
  | dropped _ count _ =>
    if count = 0 then none
    else Source.management.record .info s!"🧹 Dropped {count} queued event(s)"
  | drainRefused _ => Source.dispatch.record .warn
      "⚠️ execute() called while a drain is already running; ignoring nested call"
  | budgetExhausted _ budget delivered => Source.dispatch.record .debug
      s!"⏱️ Drain budget of {budget.debug} exhausted after {delivered} event(s)"
  | drainFinished _ delivered drained =>
    if delivered = 0 then none
    else Source.dispatch.record .trace "drain finished"
      [("delivered", .nat delivered), ("drained", .bool drained)]
  | quitReceived _ exitCode =>
    Source.engine.record .info s!"🛑 Quit requested with exit code {exitCode.toInt}"
  | told notice => notice.record
  | dispatched .. | pruned .. | invoked .. | closed .. | unwound .. | swapped .. | drainStarted ..
  | handedOver .. | drainUnwound .. => none

end Happening

def records (happenings : List Happening) : List Log.Record := happenings.filterMap (·.record?)

end EventEngine
