import TorrentAdmission.Bus.Basic
import TorrentAdmission.Metrics.Basic
import TorrentAdmission.Outcome
import TorrentAdmission.Resolution.Path

/-!
# The desk

Submissions are handed in at a desk and resolved there by tasks that run side by side. All of them
publish on one bus and are counted by one set of counters. The journal keeps everything that became
visible from outside, whether the bus still has it or not.
-/

namespace TorrentAdmission

structure Resolver where
  /-- Tells apart the resolvers that work at one desk. -/
  number : Nat := 0
  backend : Backend
  limits : Limits := {}
  /-- Its submissions are counted. -/
  metered : Bool := true

inductive Task where
  | fresh
  | resolving (progress : Progress)
  | settled (outcome : Outcome)
  /-- It crashed or was torn down. -/
  | aborted

namespace Task

def isFinished : Task → Bool
  | .fresh => false
  | .resolving _ => false
  | .settled _ => true
  | .aborted => true

/-- How the submission ended, once its task is finished. -/
def outcome? : Task → Option Outcome
  | .fresh => none
  | .resolving _ => none
  | .settled o => some o
  | .aborted => some (.failed .aborted)

def instants : Task → List Nat
  | .resolving p => p.instants
  | _ => []

end Task

structure Submission where
  id : Uuid
  request : Request
  resolver : Resolver
  task : Task := .fresh
  /-- Its owner has cancelled it. -/
  cancelled : Bool := false
  /-- Its owner still holds the handle that cancels it. -/
  held : Bool := true

namespace Submission

def source (s : Submission) : Source := s.request.route

/-- The fields by which reports from inside the task tell the submission. -/
def span (s : Submission) : Fields :=
  [("correlation_id", .shown s.id.render), ("source_kind", .text s.source.kind.label)] ++
    optionalText "magnet_info_hash" (s.source.link?.bind MagnetLink.infoHash) ++
    (s.source.link?.map fun link => ("trackers", .count link.trackers.length)).toList

def acceptance (s : Submission) : Event :=
  .accepted s.id s.request.source (s.source.link?.bind MagnetLink.displayName)

/-- The circumstances of a turn at the instant `now`. -/
def lookup (s : Submission) (now : Nat) : Lookup :=
  ⟨s.resolver.backend, s.resolver.limits, s.id, now⟩

end Submission

inductive Fact where
  | published (entry : Posted Event)
  | called (call : Call)
  | noted (notice : Notice)
  | counted (what : Count)

/-- A fact with the submission it is about and the instant at which it happened. -/
structure Entry where
  instant : Nat
  submission : Nat
  fact : Fact

structure Desk where
  bus : Bus Event
  metrics : Metrics := {}
  submissions : List Submission := []
  /-- All facts, the newest one first. -/
  journal : List Entry := []
  /-- The submissions whose tasks are to have a turn, in the order in which they woke. -/
  awake : List Nat := []
  now : Nat := 0
  /-- Tasks can be started. -/
  running : Bool := true
  /-- How many outside the tasks keep the bus open. -/
  outside : Nat := 1

namespace Desk

def new (bus : Bus Event) : Desk := { bus }

def publishedCount (d : Desk) : Nat := d.bus.nextId - 1

/-- The facts of the journal in the order in which they happened. -/
def history (d : Desk) : List Entry := d.journal.reverse

/-- What has been published about submission `i`, whether the bus still keeps it or not. -/
def eventsOf (d : Desk) (i : Nat) : List (Posted Event) :=
  d.history.filterMap fun e =>
    match e.fact with
    | .published entry => if e.submission = i then some entry else none
    | _ => none

def callsOf (d : Desk) (i : Nat) : List Call :=
  d.history.filterMap fun e =>
    match e.fact with
    | .called call => if e.submission = i then some call else none
    | _ => none

/-- The notices among the facts that came after the first `n`. -/
def noticesSince (d : Desk) (n : Nat) : List Notice :=
  (d.history.drop n).filterMap fun e =>
    match e.fact with
    | .noted notice => some notice
    | _ => none

def callsBy (d : Desk) (resolver : Nat) : List Call :=
  d.history.filterMap fun e =>
    match e.fact, d.submissions[e.submission]? with
    | .called call, some s => if s.resolver.number = resolver then some call else none
    | _, _ => none

def snapshot (d : Desk) : Snapshot × Desk :=
  (d.metrics.snapshot.1, { d with metrics := d.metrics.snapshot.2 })

/-! ### Facts -/

def record (d : Desk) (i : Nat) (fact : Fact) : Desk :=
  { d with journal := ⟨d.now, i, fact⟩ :: d.journal }

/-- Counts something for submission `i`, if its resolver is metered. -/
def count (d : Desk) (i : Nat) (what : Count) : Desk :=
  match d.submissions[i]? with
  | some s =>
    if s.resolver.metered then { d with metrics := d.metrics.count what }.record i (.counted what)
    else d
  | none => d

def announce (d : Desk) (i : Nat) (event : Event) : Desk :=
  let (id, bus) := d.bus.publish event
  ({ d with bus }.record i (.published ⟨id, event⟩)).count i (.event event.kind)

/-- Reports something about submission `i` from outside its task. -/
def report (d : Desk) (i : Nat) (notice : Notice) : Desk :=
  d.record i (.noted notice)

/-- Reports something about submission `i` from inside its task. -/
def reportWithin (d : Desk) (i : Nat) (notice : Notice) : Desk :=
  d.report i { notice with span := d.submissions[i]?.map Submission.span }

/-! ### Single submissions -/

def update (d : Desk) (i : Nat) (f : Submission → Submission) : Desk :=
  { d with submissions := d.submissions.modify i f }

/-- Submission `i` exists and its task is not finished. -/
def isLive (d : Desk) (i : Nat) : Bool :=
  d.submissions[i]?.any fun s => !s.task.isFinished

def isCancelled (d : Desk) (i : Nat) : Bool :=
  d.submissions[i]?.any Submission.cancelled

/-- Lets the task of submission `i` have a turn, unless it is to have one already or is finished. -/
def wake (d : Desk) (i : Nat) : Desk :=
  if d.isLive i && !d.awake.contains i then { d with awake := d.awake ++ [i] } else d

def unwake (d : Desk) (i : Nat) : Desk :=
  { d with awake := d.awake.filter (· != i) }

end Desk

end TorrentAdmission
