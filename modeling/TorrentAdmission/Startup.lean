import TorrentAdmission.Desk.Basic
import TorrentAdmission.Log.Logger
import TorrentAdmission.Metrics.Exposition

/-!
# Starting up

From settings to a desk with a resolver. A process installs its log once, and keeps the revision it
was first told.
-/

namespace TorrentAdmission

/-- Why a desk cannot be opened, with the step that failed. -/
inductive StartupError where
  | settings (step : String) (cause : SettingsError)
  | telemetry (step : String) (cause : TelemetryError)
  | bus (step : String) (cause : BusError)
  deriving DecidableEq, Repr

namespace StartupError

def message : StartupError → String
  | .settings _ _ => "configuration operation failed"
  | .telemetry _ _ => "telemetry operation failed"
  | .bus _ _ => "event bus operation failed"

def step : StartupError → String
  | .settings step _ => step
  | .telemetry step _ => step
  | .bus step _ => step

def causeMessage : StartupError → String
  | .settings _ cause => cause.message
  | .telemetry _ cause => cause.message
  | .bus _ cause => cause.message

end StartupError

inductive Opening where
  | opened (desk : Desk) (resolver : Resolver)
  | refused (error : StartupError)
  | crashed

/-- Opens a desk with a first resolver, if the settings can be used. -/
def Settings.openDesk (s : Settings) (backend : Backend) : Opening :=
  match s.validate with
  | .error e => .refused (.settings "config.validate" e)
  | .ok s =>
    match Bus.new s.replay.capacity with
    | .refused e => .refused (.bus "events.bus" e)
    | .crashed => .crashed
    | .opened bus => .opened (.new bus) { backend, limits := s.limits }

/-! ### Logging -/

structure Logging where
  /-- The first revision that it was told. -/
  revision? : Option String := none
  logger? : Option Logger := none
  deriving DecidableEq, Repr

namespace Logging

def defaultRevision : String := "dev"

def revision (l : Logging) : String := l.revision?.getD defaultRevision

def defaultLevel : String := "info"

def inferredFormat : LogFormat := .pretty

def install (l : Logging) (level : String) (format : LogFormat) (revision : String) :
    Except TelemetryError Unit × Logging :=
  let l := { l with revision? := l.revision? <|> some revision }
  match l.logger? with
  | some _ => (.error .alreadyInstalled, l)
  | none => (.ok (), { l with logger? := some ⟨.ofText level, format⟩ })

end Logging

/-- What comes of starting up: the desk, the state of logging, and what was reported. -/
structure Start where
  opening : Opening
  logging : Logging
  notices : List Notice := []

def Settings.readyNotice (s : Settings) : Notice where
  topic := .ready
  fields := [("call_timeout_ms", .count s.limits.call), ("prefetch_timeout_ms", .count s.limits.prefetch),
    ("replay_capacity", .count s.replay.capacity)]

/-- Installs a log and opens a desk. Settings that cannot be used are refused before the log is
touched. -/
def Settings.start (s : Settings) (backend : Backend) (logging : Logging) : Start :=
  match s.validate with
  | .error e => { opening := .refused (.settings "config.validate" e), logging }
  | .ok s =>
    match logging.install s.log.level (s.log.format.getD Logging.inferredFormat) logging.revision with
    | (.error e, logging) => { opening := .refused (.telemetry "telemetry.init" e), logging }
    | (.ok (), logging) =>
      match s.openDesk backend with
      | .opened desk resolver => { opening := .opened desk resolver, logging, notices := [s.readyNotice] }
      | opening => { opening, logging }

end TorrentAdmission
