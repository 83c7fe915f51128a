import TorrentAdmission.Desk.Basic

/-!
# Moves at the desk

What can happen at a desk, one move at a time: a submission is handed in, a task has a turn, an
owner cancels a submission or gives up its handle, a task is torn down, time passes. `Desk.run` makes
any moves in any order; `Desk.Timeline` makes those that a clock brings about.
-/

namespace TorrentAdmission

namespace Desk

/-! ### How a submission ends -/

/-- Announces how submission `i` ended, and counts it. -/
def finish (d : Desk) (i : Nat) (outcome : Outcome) : Desk :=
  match d.submissions[i]? with
  | none => d
  | some s =>
    let d := match outcome with
      | .cancelled => d.reportWithin i { topic := .cancelled }
      | _ => d
    (d.announce i (outcome.event s.id)).count i (.outcome outcome.label)

/-- Leaves submission `i` with a finished task, which no longer keeps the bus open. -/
def retire (d : Desk) (i : Nat) (task : Task) : Desk :=
  let d := (d.update i ({ · with task })).unwake i
  { d with bus := d.bus.release }

def conclude (d : Desk) (i : Nat) (outcome : Outcome) : Desk :=
  (d.finish i outcome).retire i (.settled outcome)

/-- Ends submission `i` in place of its task, which came to no end of its own. -/
def abandon (d : Desk) (i : Nat) : Desk :=
  match d.submissions[i]? with
  | none => d
  | some s =>
    let d := d.reportWithin i
      { topic := .dropped, fields := [("correlation_id", .shown s.id.render)] }
    (d.finish i (.failed .aborted)).retire i .aborted

def tearDown (d : Desk) (i : Nat) : Desk :=
  if d.isLive i then d.abandon i else d

/-! ### What owners do -/

/-- Marks submission `i` as cancelled and wakes its task. -/
def cancel (d : Desk) (i : Nat) : Desk :=
  (d.update i ({ · with cancelled := true })).wake i

/-- Cancels submission `i` if its owner still can. -/
def cancelHeld (d : Desk) (i : Nat) : Desk :=
  if d.submissions[i]?.any Submission.held then d.cancel i else d

def release (d : Desk) (i : Nat) : Desk :=
  d.update i ({ · with held := false })

/-- The owner of submission `i` hears how it ended. Of a task that came to no end of its own the
owner hears only that. -/
def hear (d : Desk) (i : Nat) : Desk :=
  match d.submissions[i]? with
  | some s =>
    match s.task with
    | .aborted => d.report i { topic := .aborted, fields := [("correlation_id", .shown s.id.render)] }
    | _ => d
  | none => d

/-- Hands in a request. Its acceptance is announced at once, its task has no turn yet. Where no
tasks can be started it is torn down on the spot and its owner gets no handle. -/
def submit (d : Desk) (resolver : Resolver) (id : Uuid) (request : Request) : Desk :=
  if d.outside = 0 then d
  else
    let i := d.submissions.length
    let s : Submission := { id, request, resolver, held := d.running }
    let d := { d with submissions := d.submissions ++ [s], awake := d.awake ++ [i], bus := d.bus.hold }
    let d := d.count i (.submission s.source.kind.label)
    let d := d.report i { topic := .accepted, fields := [("correlation_id", .shown id.render),
                            ("source_kind", .text s.source.kind.label)] }
    let d := d.announce i s.acceptance
    if d.running then d else d.tearDown i

/-! ### Turns -/

def perform (d : Desk) (i : Nat) : List Act → Desk
  | [] => d
  | .call call :: r => perform (d.record i (.called call)) i r
  | .note notice :: r => perform (d.reportWithin i notice) i r
  | .cancel k :: r => perform (d.cancelHeld k) i r

/-- Reports and counts the result of submission `i`, and ends it. -/
def settle (d : Desk) (i : Nat) : Except Failure (Torrent × Path) → Desk
  | .ok (torrent, path) =>
    let d := match path with
      | .direct => d
      | _ => d.count i (.winner path.label)
    let d := d.reportWithin i
      { topic := .resolved,
        fields := [("torrent_id", .shown torrent.key.render)] ++ optionalText "name" torrent.name? ++
          [("path", .text path.label)] }
    d.conclude i (.resolved torrent)
  | .error e =>
    let d := d.reportWithin i
      { topic := .failed,
        fields := [("error", .shown e.message)] ++
          optionalText "operation" (e.operation?.map Operation.wireName) }
    d.conclude i (.failed e)

/-- Leaves submission `i` to wait. A cancellation that came during the turn calls for another one. -/
def suspend (d : Desk) (i : Nat) (progress : Progress) : Desk :=
  let d := (d.update i ({ · with task := .resolving progress })).unwake i
  if d.isCancelled i then d.wake i else d

/-- What follows from a turn of the task of submission `i`. A cancellation counts even if it came
during the turn. -/
def afterTurn (d : Desk) (i : Nat) (turn : Turn (Step Progress (Except Failure (Torrent × Path)))) :
    Desk :=
  let d := d.perform i turn.acts
  match turn.result with
  | .error _ => d.abandon i
  | .ok (.waiting progress) => d.suspend i progress
  | .ok (.done result) => if d.isCancelled i then d.conclude i .cancelled else d.settle i result

/-- A turn of the task of submission `i`. It looks for a cancellation first. -/
def poll (d : Desk) (i : Nat) : Desk :=
  match d.submissions[i]? with
  | none => d
  | some s =>
    match s.task with
    | .fresh =>
      if s.cancelled then d.conclude i .cancelled
      else d.afterTurn i ((s.lookup d.now).start s.source)
    | .resolving progress =>
      if s.cancelled then d.conclude i .cancelled
      else d.afterTurn i ((s.lookup d.now).resume s.source progress)
    | .settled _ => d
    | .aborted => d

/-! ### The rest of the world -/

def wait (d : Desk) (ms : Nat) : Desk := { d with now := d.now + ms }

def hold (d : Desk) : Desk :=
  if d.outside = 0 then d else { d with outside := d.outside + 1, bus := d.bus.hold }

def letGo (d : Desk) : Desk :=
  if d.outside = 0 then d else { d with outside := d.outside - 1, bus := d.bus.release }

/-- Tears down all tasks in the order of their submissions. No task can be started any more. -/
def shutDown (d : Desk) : Desk :=
  (List.range d.submissions.length).foldl tearDown { d with running := false }

end Desk

inductive Move where
  | submit (resolver : Resolver) (id : Uuid) (request : Request)
  | poll (submission : Nat)
  | wake (submission : Nat)
  | cancel (submission : Nat)
  | release (submission : Nat)
  | hear (submission : Nat)
  | tearDown (submission : Nat)
  | wait (ms : Nat)
  | hold
  | letGo
  | shutDown

namespace Desk

def step (d : Desk) : Move → Desk
  | .submit resolver id request => d.submit resolver id request
  | .poll i => d.poll i
  | .wake i => d.wake i
  | .cancel i => d.cancelHeld i
  | .release i => d.release i
  | .hear i => d.hear i
  | .tearDown i => d.tearDown i
  | .wait ms => d.wait ms
  | .hold => d.hold
  | .letGo => d.letGo
  | .shutDown => d.shutDown

def run (d : Desk) : List Move → Desk
  | [] => d
  | m :: r => run (d.step m) r

theorem run_append (d : Desk) (ms ns : List Move) : d.run (ms ++ ns) = (d.run ms).run ns := by
  induction ms generalizing d with
  | nil => rfl
  | cons m r ih => exact ih (d.step m)

end Desk

end TorrentAdmission
