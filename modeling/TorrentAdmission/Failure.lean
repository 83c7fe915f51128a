import TorrentAdmission.Backend.Operation
import TorrentAdmission.Text.Duration
import TorrentAdmission.Text.Quoted

/-!
# Why a submission fails

The causes for which no torrent comes of a submission, the operation at fault, and the wording.
-/

namespace TorrentAdmission

inductive Failure where
  | refused (op : Operation) (detail : String)
  /-- A call was not answered within so many milliseconds. -/
  | timedOut (op : Operation) (after : Nat)
  /-- Fetched metadata could not be used. -/
  | unusable (infoHash reason : String)
  | blankHash (reported : String)
  | bothPaths (primary prefetch : Failure)
  /-- The task was dropped before it came to an end. -/
  | aborted
  deriving DecidableEq, Repr

namespace Failure

def notBase64 : String := "metadata is not valid base64"

def noMetadata : String := "backend returned no metadata"

def message : Failure → String
  | .refused op detail => op.wireName ++ " failed: " ++ detail
  | .timedOut op after => op.wireName ++ " timed out after " ++ Text.Duration.render after
  | .unusable infoHash reason => "prefetched metadata unavailable for " ++ infoHash ++ ": " ++ reason
  | .blankHash reported => "invalid info-hash " ++ Text.Quoted.render reported
  | .bothPaths primary prefetch =>
    "magnet resolution failed (primary: " ++ primary.message ++ "; prefetch: " ++ prefetch.message ++ ")"
  | .aborted => "resolution task aborted"

/-- The one operation at fault, where there is one. -/
def operation? : Failure → Option Operation
  | .refused op _ => some op
  | .timedOut op _ => some op
  | .unusable _ _ => some .prefetch
  | .blankHash _ => some .prefetch
  | .bothPaths _ _ => none
  | .aborted => none

def cause? : Failure → Option String
  | .refused _ detail => some detail
  | _ => none

end Failure

end TorrentAdmission
