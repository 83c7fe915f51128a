import TorrentAdmission.Log.Notice
import TorrentAdmission.Settings.Basic
import TorrentAdmission.Text.Utf8

/-!
# Settings from the environment

Variables that overlay settings. They are taken in a fixed order, and the first one that cannot be
read ends it: the variables before it stay applied.
-/

namespace TorrentAdmission

inductive Variable where
  | callLimit
  | prefetchLimit
  | logLevel
  | logFormat
  | replayCapacity
  deriving DecidableEq, Repr

namespace Variable

def nameHead : String := "INTAKE_"

def name : Variable → String
  | .callLimit => "INTAKE_CALL_TIMEOUT_MS"
  | .prefetchLimit => "INTAKE_PREFETCH_TIMEOUT_MS"
  | .logLevel => "INTAKE_LOG_LEVEL"
  | .logFormat => "INTAKE_LOG_FORMAT"
  | .replayCapacity => "INTAKE_EVENT_REPLAY_CAPACITY"

/-- The variables in the order in which they are applied. -/
def all : List Variable := [.callLimit, .prefetchLimit, .logLevel, .logFormat, .replayCapacity]

/-- A whole number of 64 bits with blanks around it. -/
def word? (text : String) : Option Nat :=
  Text.Decimal.word? (Text.trimChars text.toList)

def wordReason : String := "must be a non-negative integer"

def reason : Variable → String
  | .logFormat => LogFormat.reason
  | _ => wordReason

/-- `s` with the variable's value entered, if it can be read. -/
def enter? (v : Variable) (text : String) (s : Settings) : Option Settings :=
  match v with
  | .callLimit => (word? text).map fun n => { s with limits.call := n }
  | .prefetchLimit => (word? text).map fun n => { s with limits.prefetch := n }
  | .logLevel => some { s with log.level := text }
  | .logFormat => (LogFormat.ofText? text).map fun f => { s with log.format := some f }
  | .replayCapacity => (word? text).map fun n => { s with replay.capacity := n }

/-- What is reported before a variable is entered; the log format is entered silently. -/
def notices : Variable → List Notice
  | .logFormat => []
  | v => [{ topic := .overlay, fields := [("variable", .text v.name)] }]

end Variable

/-- The outcome of overlaying variables: the settings reached, what stopped it, and what was
reported. -/
structure Overlay where
  settings : Settings
  error : Option SettingsError
  notices : List Notice
  deriving DecidableEq, Repr

namespace Settings

/-- Overlays variables, with their values given by `lookup`, one after another. -/
def overlayAll (lookup : String → Option String) : List Variable → Settings → Overlay
  | [], s => ⟨s, none, []⟩
  | v :: r, s =>
    match lookup v.name with
    | none => overlayAll lookup r s
    | some text =>
      match v.enter? text s with
      | some s =>
        let rest := overlayAll lookup r s
        { rest with notices := v.notices ++ rest.notices }
      | none => ⟨s, some (.variable v.name text v.reason), v.notices⟩

def overlay (s : Settings) (lookup : String → Option String) : Overlay :=
  overlayAll lookup Variable.all s

/-- The defaults with the variables overlaid, if they can be used. -/
def ofLookup (lookup : String → Option String) : Except SettingsError Settings × List Notice :=
  let o := ({} : Settings).overlay lookup
  (match o.error with
    | some e => .error e
    | none => o.settings.validate,
   o.notices)

/-- The value of a variable whose bytes are text; other bytes count as no value. -/
def variableText? (bytes : List UInt8) : Option String :=
  (Text.Utf8.decode? bytes).map String.ofList

end Settings

end TorrentAdmission
