import TorrentAdmission.Event
import TorrentAdmission.Text.Quoted

/-!
# Summaries of events

What a list of events comes to: the kinds in it, and the one event that ends a submission.
-/

namespace TorrentAdmission

namespace Event

def kinds (events : List Event) : List String :=
  events.map kind

inductive EndError where
  | none (kinds : List String)
  | several (kinds : List String)
  deriving DecidableEq, Repr

def singleEnd (events : List Event) : Except EndError Event :=
  match events.filter isTerminal with
  | [] => .error (.none (kinds events))
  | [e] => .ok e
  | _ => .error (.several (kinds events))

def listing (names : List String) : String :=
  "[" ++ String.intercalate ", " (names.map Text.Quoted.render) ++ "]"

def EndError.message : EndError → String
  | .none kinds => "no terminal event in " ++ listing kinds
  | .several kinds => "more than one terminal event in " ++ listing kinds

end Event

end TorrentAdmission
