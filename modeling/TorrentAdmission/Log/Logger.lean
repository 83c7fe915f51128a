import TorrentAdmission.Log.Filter
import TorrentAdmission.Settings.Basic

/-!
# Logs

What becomes of notices in a log: those that its filter lets through, written in its format.
-/

namespace TorrentAdmission

structure Logger where
  filter : Filter
  format : LogFormat
  deriving DecidableEq, Repr

namespace Logger

/-- The number of line breaks in a value as a person reads it; texts are quoted there. -/
def breaks : FieldValue → Nat
  | .shown s => s.toList.count '\n'
  | _ => 0

def lines (n : Notice) : Nat :=
  (n.fields ++ n.span.getD []).foldl (fun count f => count + breaks f.2) 1

/-- What the log makes of notices: values to be read by programs, or lines, of which only the number
is told. -/
def write (l : Logger) (notices : List Notice) : Json :=
  let shown := notices.filterMap l.filter.apply
  match l.format with
  | .json => .array (shown.map Notice.toJson)
  | .pretty => if shown.isEmpty then .array [] else .ofNat (shown.foldl (fun count n => count + lines n) 0)

end Logger

end TorrentAdmission
