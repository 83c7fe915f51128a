/-!
# Counters

How many submissions, outcomes, winning paths and events there were, each counted by a label, and
how many submissions are under way.
-/

namespace TorrentAdmission

/-- Counts by label, in ascending order of the labels. -/
abbrev Counter := List (String × Nat)

namespace Counter

/-- Adds `n` to the count of a label; a label that was not there starts at zero. -/
def add (label : String) (n : Nat) : Counter → Counter
  | [] => [(label, n)]
  | (l, k) :: r =>
    if l = label then (l, k + n) :: r
    else if label < l then (label, n) :: (l, k) :: r
    else (l, k) :: add label n r

def count (label : String) : Counter → Nat
  | [] => 0
  | (l, k) :: r => if l = label then k else count label r

def total : Counter → Nat
  | [] => 0
  | (_, k) :: r => k + total r

end Counter

structure Metrics where
  submissions : Counter := []
  outcomes : Counter := []
  winners : Counter := []
  events : Counter := []
  inFlight : Int := 0
  deriving DecidableEq, Repr

structure Snapshot where
  inFlight : Int
  resolved : Nat
  failed : Nat
  cancelled : Nat
  deriving DecidableEq, Repr

inductive Count where
  | submission (kind : String)
  | outcome (label : String)
  | winner (path : String)
  | event (kind : String)
  deriving DecidableEq, Repr

namespace Metrics

def count (m : Metrics) : Count → Metrics
  | .submission kind =>
    { m with submissions := m.submissions.add kind 1, inFlight := m.inFlight + 1 }
  | .outcome label => { m with outcomes := m.outcomes.add label 1, inFlight := m.inFlight - 1 }
  | .winner path => { m with winners := m.winners.add path 1 }
  | .event kind => { m with events := m.events.add kind 1 }

def countTimes (m : Metrics) (what : Count) : Nat → Metrics
  | 0 => m
  | n + 1 => countTimes (m.count what) what n

/-- The labels of the three ways in which a submission ends. -/
def outcomeLabels : List String := ["resolved", "failed", "cancelled"]

/-- The main counts. Asking for them makes the three outcomes known, at zero if they never
happened. -/
def snapshot (m : Metrics) : Snapshot × Metrics :=
  let outcomes := outcomeLabels.foldl (fun c label => c.add label 0) m.outcomes
  (⟨m.inFlight, outcomes.count "resolved", outcomes.count "failed", outcomes.count "cancelled"⟩,
    { m with outcomes })

end Metrics

end TorrentAdmission
