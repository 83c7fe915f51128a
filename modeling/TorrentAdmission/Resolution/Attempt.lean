import TorrentAdmission.Resolution.Turn

/-!
# Calls under a deadline

A call that waits for its answer. When the answer and the deadline fall on the same instant the
answer counts.
-/

namespace TorrentAdmission

structure Attempt (α : Type) where
  since : Nat
  limit : Nat
  script : Script α

namespace Attempt

variable {α : Type}

/-- What the call comes to when no answer counts any more. -/
def overdue (op : Operation) (a : Attempt α) (now : Nat) :
    Turn (Step (Attempt α) (Except Failure α)) :=
  if a.since + a.limit ≤ now then pure (.done (.error (.timedOut op a.limit)))
  else pure (.waiting a)

/-- Passes on an answer, which may make an owner cancel a submission. -/
def answer (a : Attempt α) (result : Except Failure α) :
    Turn (Step (Attempt α) (Except Failure α)) :=
  ⟨a.script.cancels.toList.map .cancel, .ok (.done result)⟩

def poll (op : Operation) (a : Attempt α) (now : Nat) :
    Turn (Step (Attempt α) (Except Failure α)) :=
  if a.since + a.script.after ≤ now then
    match a.script.reply with
    | .ok value => a.answer (.ok value)
    | .error detail => a.answer (.error (.refused op detail))
    | .crash detail => .crash detail
    | .never => a.overdue op now
  else a.overdue op now

/-- The instants at which something may happen to the call. -/
def instants (a : Attempt α) : List Nat :=
  [a.since + a.script.after, a.since + a.limit]

end Attempt

end TorrentAdmission
