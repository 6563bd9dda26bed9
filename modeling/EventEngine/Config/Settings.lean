import EventEngine.Event.Debug
import EventEngine.Json.Decoder

/-! Settings of the program: how the engine ticks and how it logs. Every setting has a
default, so any part of them may be left out. -/
namespace EventEngine.Config

structure EngineSettings where
  /-- Milliseconds between ticks; zero ticks back to back. -/
  tickIntervalMillis : UInt64 := 16
  /-- Milliseconds a drain may take; zero sets no limit. -/
  executeTimeoutMillis : UInt64 := 0
  /-- Ticks before the engine quits by itself; zero waits for a quit event. -/
  maxTicks : UInt64 := 0
  deriving DecidableEq, Repr

structure LoggingSettings where
  level : String := "info"
  jsonFormat : Bool := false
  deriving DecidableEq, Repr

structure Settings where
  engine : EngineSettings := {}
  logging : LoggingSettings := {}
  deriving DecidableEq, Repr

/-- Milliseconds as a length, none for zero. -/
def millis? (n : UInt64) : Option Duration := if n = 0 then none else some (.ofMillis n)

def EngineSettings.tickInterval (s : EngineSettings) : Option Duration := millis? s.tickIntervalMillis

def EngineSettings.executeTimeout (s : EngineSettings) : Option Duration :=
  millis? s.executeTimeoutMillis

/-! ### Validity -/

def logLevels : List String := ["trace", "debug", "info", "warn", "error"]

inductive SettingsError
  | unknownLevel (level : String)
  | timeoutExceedsInterval (timeout interval : UInt64)
  deriving DecidableEq, Repr

def SettingsError.message : SettingsError → String
  | unknownLevel level =>
    s!"Invalid log level: {level}. Must be one of: [" ++
      ", ".intercalate (logLevels.map Text.quoted) ++ "]"
  | timeoutExceedsInterval timeout interval =>
    s!"execute_timeout_ms ({timeout.toNat}) cannot exceed tick_interval_ms ({interval.toNat})"

/-- The level has to be known, and a drain must not be allowed longer than a tick. -/
def Settings.validate (s : Settings) : Except SettingsError Unit :=
  if s.logging.level ∉ logLevels then .error (.unknownLevel s.logging.level)
  else if 0 < s.engine.tickIntervalMillis ∧ 0 < s.engine.executeTimeoutMillis ∧
      s.engine.tickIntervalMillis < s.engine.executeTimeoutMillis then
    .error (.timeoutExceedsInterval s.engine.executeTimeoutMillis s.engine.tickIntervalMillis)
  else .ok ()

/-! ### Stored form -/

open Json (Shape)

def EngineSettings.encode (s : EngineSettings) : Json :=
  .ofMembers [("tick_interval_ms", .int s.tickIntervalMillis.toNat),
    ("execute_timeout_ms", .int s.executeTimeoutMillis.toNat),
    ("max_ticks", .int s.maxTicks.toNat)]

def LoggingSettings.encode (s : LoggingSettings) : Json :=
  .ofMembers [("level", .string s.level), ("json_format", .bool s.jsonFormat)]

def Settings.encode (s : Settings) : Json :=
  .ofMembers [("engine", s.engine.encode), ("logging", s.logging.encode)]

/-- Items behind the last field are refused where `bounded` says so. -/
def EngineSettings.decode (bounded : Bool) : Decoder EngineSettings := fun value =>
  let shape : Shape :=
    { name := "EngineSettings", bounded
      fields := ["tick_interval_ms", "execute_timeout_ms", "max_ticks"] }
  let interval := (value.slot 0 "tick_interval_ms" Json.decodeUInt64).withDefault 16
  let timeout := (value.slot 1 "execute_timeout_ms" Json.decodeUInt64).withDefault 0
  let limit := (value.slot 2 "max_ticks" Json.decodeUInt64).withDefault 0
  Json.decodeRecord shape value
    [interval.report "tick_interval_ms", timeout.report "execute_timeout_ms",
      limit.report "max_ticks"] do
    .ok ⟨← interval.get "tick_interval_ms", ← timeout.get "execute_timeout_ms",
      ← limit.get "max_ticks"⟩

def LoggingSettings.decode (bounded : Bool) : Decoder LoggingSettings := fun value =>
  let shape : Shape := { name := "LoggingSettings", bounded, fields := ["level", "json_format"] }
  let level := (value.slot 0 "level" Json.decodeString).withDefault "info"
  let jsonFormat := (value.slot 1 "json_format" Json.decodeBool).withDefault false
  Json.decodeRecord shape value [level.report "level", jsonFormat.report "json_format"] do
    .ok ⟨← level.get "level", ← jsonFormat.get "json_format"⟩

def Settings.decode (bounded : Bool) : Decoder Settings := fun value =>
  let shape : Shape := { name := "AppConfig", bounded, fields := ["engine", "logging"] }
  let engine := (value.slot 0 "engine" (EngineSettings.decode bounded)).withDefault {}
  let logging := (value.slot 1 "logging" (LoggingSettings.decode bounded)).withDefault {}
  Json.decodeRecord shape value [engine.report "engine", logging.report "logging"] do
    .ok ⟨← engine.get "engine", ← logging.get "logging"⟩

/-! ### Structural text -/

def EngineSettings.debug (s : EngineSettings) : String :=
  recordText "EngineSettings" [("tick_interval_ms", toString s.tickIntervalMillis.toNat),
    ("execute_timeout_ms", toString s.executeTimeoutMillis.toNat),
    ("max_ticks", toString s.maxTicks.toNat)]

def LoggingSettings.debug (s : LoggingSettings) : String :=
  recordText "LoggingSettings" [("level", Text.quoted s.level), ("json_format", toString s.jsonFormat)]

def Settings.debug (s : Settings) : String :=
  recordText "AppConfig" [("engine", s.engine.debug), ("logging", s.logging.debug)]

end EventEngine.Config
