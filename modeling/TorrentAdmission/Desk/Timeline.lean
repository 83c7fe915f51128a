import TorrentAdmission.Desk.Step

/-!
# The desk under a clock

Tasks have their turns in the order in which they woke. The clock stands still while a task is
awake; then it goes to the next instant at which a task wants a turn, which is a millisecond later at
least. So the time that may pass bounds the number of instants to be visited.
-/

namespace TorrentAdmission

namespace Desk

/-! ### Turns -/

/-- Up to `fuel` turns of tasks that are awake, the one that woke first being the first. -/
def takeTurns : (fuel : Nat) → Desk → Desk
  | 0, d => d
  | fuel + 1, d =>
    match d.awake with
    | [] => d
    | i :: _ => takeTurns fuel ((d.unwake i).poll i)

/-- Turns until all tasks are asleep. A turn wakes another task only by cancelling it, which happens
to a submission once. -/
def runAwake (d : Desk) : Desk :=
  takeTurns (d.awake.length + d.submissions.length) d

/-! ### The clock -/

/-- The instants to come at which some task wants a turn. -/
def comingInstants (d : Desk) : List Nat :=
  (d.submissions.flatMap fun s => s.task.instants).filter fun t => decide (d.now < t)

def nextInstant? (d : Desk) : Option Nat := d.comingInstants.min?

def wakeDue (d : Desk) : Desk :=
  (List.range d.submissions.length).foldl
    (fun e i => if d.submissions[i]?.any (fun s => s.task.instants.contains d.now) then e.wake i else e) d

def moveTo (d : Desk) (t : Nat) : Desk :=
  (d.wait (t - d.now)).wakeDue

/-- Lets everything happen that is due up to the instant `target`, and stops there. There are no more
than `fuel` instants in between. -/
def advanceTo : (fuel : Nat) → (target : Nat) → Desk → Desk
  | 0, target, d => (d.moveTo target).runAwake
  | fuel + 1, target, d =>
    let d := d.runAwake
    match d.nextInstant? with
    | some t => if t < target then advanceTo fuel target (d.moveTo t) else (d.moveTo target).runAwake
    | none => (d.moveTo target).runAwake

def advance (d : Desk) (ms : Nat) : Desk :=
  advanceTo ms (d.now + ms) d

/-! ### Waiting for an outcome -/

def outcome? (d : Desk) (i : Nat) : Option Outcome :=
  d.submissions[i]?.bind fun s => s.task.outcome?

/-- Lets things happen until submission `i` has ended, at no more than `fuel` instants. -/
def awaitEnd : (fuel : Nat) → (i : Nat) → Desk → Desk
  | 0, _, d => d
  | fuel + 1, i, d =>
    if d.isLive i then
      let d := d.runAwake
      if d.isLive i then
        match d.nextInstant? with
        | some t => awaitEnd fuel i (d.moveTo t)
        | none => d
      else d
    else d

/-- A bound on the time that submission `i` takes, from its first turn to its end. -/
def longest (d : Desk) (i : Nat) : Nat :=
  d.submissions[i]?.elim 0 fun s => 2 * s.resolver.limits.call + s.resolver.limits.prefetch

/-- The owner of submission `i` waits for its outcome, for which it gives up the handle. The outcome
is heard before the tasks that are awake by then have their turns. -/
def await (d : Desk) (i : Nat) : Option Outcome × Desk :=
  let d := awaitEnd (d.longest i + 2) i (d.release i)
  (d.outcome? i, (d.hear i).runAwake)

end Desk

end TorrentAdmission
