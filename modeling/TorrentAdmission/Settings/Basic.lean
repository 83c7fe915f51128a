import TorrentAdmission.Json.Record
import TorrentAdmission.Text.Blank
import TorrentAdmission.Text.Decimal

/-!
# Settings

The deadlines of backend calls, how to log, and how many events to keep for replay, with their
defaults and their JSON form. `Settings.problem?` names the first setting that cannot be used.
-/

namespace TorrentAdmission

/-- Deadlines of backend calls in milliseconds. -/
structure Limits where
  /-- For every call but the prefetch. -/
  call : Nat := 60000
  prefetch : Nat := 30000
  deriving DecidableEq, Repr

inductive LogFormat where
  | json
  | pretty
  deriving DecidableEq, Repr

structure LogSettings where
  level : String := "info"
  format : Option LogFormat := none
  deriving DecidableEq, Repr

structure ReplaySettings where
  capacity : Nat := 1024
  deriving DecidableEq, Repr

structure Settings where
  limits : Limits := {}
  log : LogSettings := {}
  replay : ReplaySettings := {}
  deriving DecidableEq, Repr

inductive SettingsError where
  /-- A field holds a value that cannot be used. -/
  | invalid (group field : String) (value : Option String) (reason : String)
  /-- A variable of the environment cannot be read. -/
  | variable (name value reason : String)
  /-- A document is not JSON or has another shape. -/
  | malformed
  deriving DecidableEq, Repr

def SettingsError.message : SettingsError → String
  | .invalid group field _ reason => "invalid value for '" ++ field ++ "' in '" ++ group ++ "': " ++ reason
  | .variable name _ _ => "invalid environment variable " ++ name
  | .malformed => "failed to parse configuration document"

namespace LogFormat

def label : LogFormat → String
  | .json => "json"
  | .pretty => "pretty"

def ofLabel? (s : String) : Option LogFormat :=
  if s = "json" then some .json else if s = "pretty" then some .pretty else none

def reason : String := "must be 'json' or 'pretty'"

/-- A format as a person writes it: in either case, with blanks around it. -/
def ofText? (text : String) : Option LogFormat :=
  ofLabel? (.ofList ((Text.trimChars text.toList).map Text.lowerAscii))

def ofText (text : String) : Except SettingsError LogFormat :=
  match ofText? text with
  | some f => .ok f
  | none => .error (.invalid "telemetry" "log_format" (some text) reason)

def toJson (f : LogFormat) : Json := .string f.label

def ofJson? (v : Json) : Option LogFormat :=
  v.unitName?.bind ofLabel?

end LogFormat

namespace Limits

def toJson (l : Limits) : Json :=
  .object [("call_timeout_ms", .ofNat l.call), ("prefetch_timeout_ms", .ofNat l.prefetch)]

def ofJson? (v : Json) : Option Limits := do
  let fields ← v.fields? .refuse ["call_timeout_ms", "prefetch_timeout_ms"]
  return ⟨← Json.orDefault? Json.word? ({} : Limits).call "call_timeout_ms" fields,
    ← Json.orDefault? Json.word? ({} : Limits).prefetch "prefetch_timeout_ms" fields⟩

end Limits

namespace LogSettings

def toJson (s : LogSettings) : Json :=
  .object [("log_level", .string s.level), ("log_format", s.format.elim .null LogFormat.toJson)]

def ofJson? (v : Json) : Option LogSettings := do
  let fields ← v.fields? .refuse ["log_level", "log_format"]
  return ⟨← Json.orDefault? Json.text? ({} : LogSettings).level "log_level" fields,
    ← Json.orDefault? (Json.nullable? LogFormat.ofJson?) none "log_format" fields⟩

end LogSettings

namespace ReplaySettings

def toJson (s : ReplaySettings) : Json :=
  .object [("replay_capacity", .ofNat s.capacity)]

def ofJson? (v : Json) : Option ReplaySettings := do
  let fields ← v.fields? .refuse ["replay_capacity"]
  return ⟨← Json.orDefault? Json.word? ({} : ReplaySettings).capacity "replay_capacity" fields⟩

end ReplaySettings

namespace Settings

def toJson (s : Settings) : Json :=
  .object [("resolver", s.limits.toJson), ("telemetry", s.log.toJson), ("events", s.replay.toJson)]

def ofJson? (v : Json) : Option Settings := do
  let fields ← v.fields? .refuse ["resolver", "telemetry", "events"]
  return ⟨← Json.orDefault? Limits.ofJson? {} "resolver" fields,
    ← Json.orDefault? LogSettings.ofJson? {} "telemetry" fields,
    ← Json.orDefault? ReplaySettings.ofJson? {} "events" fields⟩

def checkPositive (group field : String) (n : Nat) : Option SettingsError :=
  if n = 0 then some (.invalid group field (some (Text.Decimal.render n)) "must be positive") else none

def checkLevel (level : String) : Option SettingsError :=
  if Text.isBlankText level then some (.invalid "telemetry" "log_level" (some level) "must not be empty")
  else none

/-- The first setting that cannot be used, if there is one. -/
def problem? (s : Settings) : Option SettingsError :=
  checkPositive "resolver" "call_timeout_ms" s.limits.call
    <|> checkPositive "resolver" "prefetch_timeout_ms" s.limits.prefetch
    <|> checkLevel s.log.level
    <|> checkPositive "events" "replay_capacity" s.replay.capacity

def validate (s : Settings) : Except SettingsError Settings :=
  match s.problem? with
  | some e => .error e
  | none => .ok s

/-- The settings that a JSON document states, the others at their defaults. -/
def ofDocument (text : String) : Except SettingsError Settings :=
  match (Json.parse? text).bind ofJson? with
  | some s => s.validate
  | none => .error .malformed

end Settings

end TorrentAdmission
