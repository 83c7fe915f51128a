import TorrentAdmission.Event
import TorrentAdmission.Torrent.Basic

/-!
# Outcomes

The three ways in which a submission ends, and the event that announces each of them.
-/

namespace TorrentAdmission

inductive Outcome where
  | resolved (torrent : Torrent)
  | failed (failure : Failure)
  | cancelled

namespace Outcome

def label : Outcome → String
  | .resolved _ => "resolved"
  | .failed _ => "failed"
  | .cancelled => "cancelled"

def event (submission : Uuid) : Outcome → Event
  | .resolved t => .added submission t.key.render t.info
  | .failed e => .failed submission (e.operation?.map Operation.wireName) e.message
  | .cancelled => .cancelled submission

theorem event_submission (submission : Uuid) (o : Outcome) :
    (o.event submission).submission = submission := by
  cases o <;> rfl

theorem event_isTerminal (submission : Uuid) (o : Outcome) :
    (o.event submission).isTerminal = true := by
  cases o <;> rfl

end Outcome

end TorrentAdmission
