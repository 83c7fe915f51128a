import TorrentAdmission.Backend.Operation
import TorrentAdmission.Torrent.Basic

/-!
# Backends

A backend is known by its answers: for every call what it will say and after how long. The
submission that makes a call is given along with it, so that two calls that are alike can be
answered differently.
-/

namespace TorrentAdmission

inductive Query where
  | file (name : String)
  | metadata (bytes : List UInt8)
  deriving DecidableEq, Repr

inductive Call where
  | magnetInfo (uri : String)
  | prefetch (uri : String)
  | download (url cookies : String)
  | torrentInfo (query : Query)
  deriving DecidableEq, Repr

def Call.operation : Call → Operation
  | .magnetInfo _ => .magnetInfo
  | .prefetch _ => .prefetch
  | .download _ _ => .download
  | .torrentInfo _ => .torrentInfo

inductive Reply (α : Type) where
  | ok (value : α)
  | error (detail : String)
  | never
  /-- The call brings its caller down. -/
  | crash (detail : String)

structure Script (α : Type) where
  reply : Reply α
  /-- Milliseconds until the reply. -/
  after : Nat := 0
  /-- A submission that its owner cancels on hearing the answer. -/
  cancels : Option Nat := none

structure Backend where
  magnetInfo : (submission : Uuid) → (uri : String) → Script Info
  prefetch : (submission : Uuid) → (uri : String) → Script Prefetched
  download : (submission : Uuid) → (url cookies : String) → Script String
  torrentInfo : (submission : Uuid) → (query : Query) → Script Info

namespace Backend

/-- The answer to a call for which there is no script. -/
def unscripted (op : Operation) : Script α :=
  { reply := .error (op.wireName ++ " not scripted") }

/-- A backend that answers all calls of one operation alike. -/
def scripted (magnetInfo : Option (Script Info)) (prefetch : Option (Script Prefetched))
    (download : Option (Script String)) (torrentInfo : Option (Script Info)) : Backend where
  magnetInfo _ _ := magnetInfo.getD (unscripted .magnetInfo)
  prefetch _ _ := prefetch.getD (unscripted .prefetch)
  download _ _ _ := download.getD (unscripted .download)
  torrentInfo _ _ := torrentInfo.getD (unscripted .torrentInfo)

end Backend

end TorrentAdmission
