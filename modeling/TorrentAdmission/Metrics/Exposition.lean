import TorrentAdmission.Json.Basic
import TorrentAdmission.Metrics.Basic
import TorrentAdmission.Metrics.Figure
import TorrentAdmission.Text.Decimal

/-!
# Counters as text

The text form in which counters are collected: one family after another by name, and in a family
one line for each label, with its count. A family without labels is left out.
-/

namespace TorrentAdmission

namespace Metrics

open Text

def escapeLabel (c : Char) : List Char :=
  if c = '\\' then ['\\', '\\']
  else if c = '"' then ['\\', '"']
  else if c = '\n' then ['\\', 'n']
  else [c]

def familyHead (name help kind : String) : String :=
  "# HELP " ++ name ++ " " ++ help ++ "\n# TYPE " ++ name ++ " " ++ kind ++ "\n"

def counterLine (name key label : String) (n : Nat) : String :=
  name ++ "\x7b" ++ key ++ "=\"" ++ .ofList (label.toList.flatMap escapeLabel) ++ "\"\x7d "
    ++ Decimal.render (Figure.shown n) ++ "\n"

def counterFamily (name help key : String) (counter : Counter) : String :=
  if counter.isEmpty then ""
  else familyHead name help "counter" ++ String.join (counter.map fun c => counterLine name key c.1 c.2)

def gaugeFamily (name help : String) (value : Int) : String :=
  familyHead name help "gauge" ++ name ++ " " ++ Decimal.renderInt (Figure.shownInt value) ++ "\n"

def render (m : Metrics) : String :=
  counterFamily "events_emitted_total" "Domain events emitted by type" "type" m.events
    ++ gaugeFamily "ingest_in_flight" "Submissions awaiting a terminal outcome" m.inFlight
    ++ counterFamily "ingest_magnet_winner_total" "Magnet submissions resolved by each lookup path" "path"
      m.winners
    ++ counterFamily "ingest_outcomes_total" "Terminal submission outcomes" "outcome" m.outcomes
    ++ counterFamily "ingest_submissions_total" "Torrent sources submitted by classification" "kind"
      m.submissions

end Metrics

def Snapshot.toJson (s : Snapshot) : Json :=
  .object [("in_flight", .ofInt s.inFlight), ("resolved_total", .ofNat s.resolved),
    ("failed_total", .ofNat s.failed), ("cancelled_total", .ofNat s.cancelled)]

/-- Why counters or the log cannot be set up or read. -/
inductive TelemetryError where
  | alreadyInstalled
  | invalidMetric (name : String)
  | unregisteredMetric (name : String)
  | exposition
  | notUtf8
  deriving DecidableEq, Repr

def TelemetryError.message : TelemetryError → String
  | .alreadyInstalled => "tracing subscriber already installed"
  | .invalidMetric name => "invalid ingest metric " ++ name
  | .unregisteredMetric name => "ingest metric " ++ name ++ " could not be registered"
  | .exposition => "metrics exposition failed"
  | .notUtf8 => "metrics exposition was not utf-8"

end TorrentAdmission
