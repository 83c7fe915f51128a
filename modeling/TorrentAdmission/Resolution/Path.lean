import TorrentAdmission.Resolution.Attempt
import TorrentAdmission.Resolution.Race
import TorrentAdmission.Settings.Basic
import TorrentAdmission.Source

/-!
# Resolving a source

The calls that turn a source into a torrent. A torrent file is downloaded and then described. A
magnet link is looked up on two paths at once: the primary one asks the backend to describe the link
itself, the other one fetches its metadata and has those described.
-/

namespace TorrentAdmission

inductive Path where
  | direct
  | primary
  | prefetch
  deriving DecidableEq, Repr

def Path.label : Path → String
  | .direct => "direct"
  | .primary => "primary"
  | .prefetch => "prefetch"

/-- What a lookup works with in one turn. -/
structure Lookup where
  backend : Backend
  limits : Limits
  submission : Uuid
  now : Nat

inductive DirectState where
  | downloading (attempt : Attempt String)
  | describing (filename : String) (attempt : Attempt Info)

inductive PrefetchState where
  | fetching (attempt : Attempt Prefetched)
  | describing (hash : InfoHash) (attempt : Attempt Info)

inductive Progress where
  | direct (state : DirectState)
  | magnet (race : Race (Attempt Info) PrefetchState Failure)

namespace Lookup

variable {α : Type}

/-- Makes a call: the attempt that waits for its answer. -/
def begin (l : Lookup) (limit : Nat) (call : Call) (script : Script α) : Turn (Attempt α) := do
  Turn.act (.call call)
  pure ⟨l.now, limit, script⟩

def errorField (e : Failure) : Fields := [("error", .shown e.message)]

/-! ### Direct sources -/

def pollFileInfo (l : Lookup) (filename : String) (attempt : Attempt Info) :
    Turn (Step DirectState (Except Failure Torrent)) := do
  match ← attempt.poll .torrentInfo l.now with
  | .waiting attempt => pure (.waiting (.describing filename attempt))
  | .done (.ok info) => pure (.done (.ok (.describe (.submission l.submission) filename info)))
  | .done (.error e) => pure (.done (.error e))

def pollDownload (l : Lookup) (attempt : Attempt String) :
    Turn (Step DirectState (Except Failure Torrent)) := do
  match ← attempt.poll .download l.now with
  | .waiting attempt => pure (.waiting (.downloading attempt))
  | .done (.error e) => pure (.done (.error e))
  | .done (.ok filename) =>
    Turn.note .downloaded [("filename", .shown filename)]
    let query := Query.file filename
    let info ← l.begin l.limits.call (.torrentInfo query) (l.backend.torrentInfo l.submission query)
    l.pollFileInfo filename info

def pollDirect (l : Lookup) : DirectState → Turn (Step DirectState (Except Failure Torrent))
  | .downloading attempt => l.pollDownload attempt
  | .describing filename attempt => l.pollFileInfo filename attempt

def startDirect (l : Lookup) (url cookies : String) :
    Turn (Step DirectState (Except Failure Torrent)) := do
  let attempt ← l.begin l.limits.call (.download url cookies)
    (l.backend.download l.submission url cookies)
  l.pollDownload attempt

/-! ### Magnet links -/

def pollPrimary (l : Lookup) (uri : String) (attempt : Attempt Info) :
    Turn (Step (Attempt Info) (Except Failure Torrent)) := do
  match ← attempt.poll .magnetInfo l.now with
  | .waiting attempt => pure (.waiting attempt)
  | .done (.ok info) => pure (.done (.ok (.describe (.submission l.submission) uri info)))
  | .done (.error e) =>
    Turn.note .lookupFailed (errorField e)
    pure (.done (.error e))

def pollMetadataInfo (l : Lookup) (uri : String) (hash : InfoHash) (attempt : Attempt Info) :
    Turn (Step PrefetchState (Except Failure Torrent)) := do
  match ← attempt.poll .torrentInfo l.now with
  | .waiting attempt => pure (.waiting (.describing hash attempt))
  | .done (.ok info) => pure (.done (.ok (.describe (.infoHash hash) uri info)))
  | .done (.error e) => pure (.done (.error e))

def useMetadata (l : Lookup) (uri : String) (p : Prefetched) :
    Turn (Step PrefetchState (Except Failure Torrent)) :=
  match InfoHash.ofReported p.infoHash with
  | .error e => pure (.done (.error e))
  | .ok hash =>
    match p.bytes with
    | .error e => do
      Turn.note .prefetchUnusable (errorField e)
      pure (.done (.error e))
    | .ok bytes => do
      Turn.note .prefetched
        [("info_hash", .shown hash.text), ("bytes", .count bytes.length)]
      let query := Query.metadata bytes
      let info ← l.begin l.limits.call (.torrentInfo query)
        (l.backend.torrentInfo l.submission query)
      l.pollMetadataInfo uri hash info

def pollPrefetch (l : Lookup) (uri : String) :
    PrefetchState → Turn (Step PrefetchState (Except Failure Torrent))
  | .describing hash attempt => l.pollMetadataInfo uri hash attempt
  | .fetching attempt => do
    match ← attempt.poll .prefetch l.now with
    | .waiting attempt => pure (.waiting (.fetching attempt))
    | .done (.error e) =>
      Turn.note .prefetchFailed (errorField e)
      pure (.done (.error e))
    | .done (.ok p) => l.useMetadata uri p

/-- The torrent a race has led to, with its path, or the failures of both. -/
def outcomeOf : Finish Torrent Torrent Failure → Except Failure (Torrent × Path)
  | .left t => .ok (t, .primary)
  | .right t => .ok (t, .prefetch)
  | .neither l r => .error (.bothPaths l r)

def raceStep : Step (Race (Attempt Info) PrefetchState Failure) (Finish Torrent Torrent Failure) →
    Step Progress (Except Failure (Torrent × Path))
  | .waiting race => .waiting (.magnet race)
  | .done finish => .done (outcomeOf finish)

/-- The first turn of a race: each side makes its call and looks for the answer at once. -/
def startMagnet (l : Lookup) (uri : String) :
    Turn (Step Progress (Except Failure (Torrent × Path))) := do
  let primary ← l.begin l.limits.call (.magnetInfo uri) (l.backend.magnetInfo l.submission uri)
  let left ← Race.pollLane (l.pollPrimary uri) (.running primary)
  let prefetch ← l.begin l.limits.prefetch (.prefetch uri) (l.backend.prefetch l.submission uri)
  let right ← Race.pollLane (l.pollPrefetch uri) (.running (.fetching prefetch))
  pure (raceStep (Race.decide left right))

/-! ### Both -/

def directStep : Step DirectState (Except Failure Torrent) →
    Step Progress (Except Failure (Torrent × Path))
  | .waiting state => .waiting (.direct state)
  | .done result => .done (result.map fun t => (t, .direct))

def start (l : Lookup) : Source → Turn (Step Progress (Except Failure (Torrent × Path)))
  | .direct url cookies => return directStep (← l.startDirect url cookies)
  | .magnet uri => l.startMagnet uri

def resume (l : Lookup) (source : Source) :
    Progress → Turn (Step Progress (Except Failure (Torrent × Path)))
  | .direct state => return directStep (← l.pollDirect state)
  | .magnet race => return raceStep (← race.poll (l.pollPrimary source.text) (l.pollPrefetch source.text))

end Lookup

namespace Progress

/-- The instants at which a lookup wants another turn. -/
def instants : Progress → List Nat
  | .direct (.downloading a) => a.instants
  | .direct (.describing _ a) => a.instants
  | .magnet race =>
    (match race.left with
      | .running a => a.instants
      | .failed _ => []) ++
    (match race.right with
      | .running (.fetching a) => a.instants
      | .running (.describing _ a) => a.instants
      | .failed _ => [])

end Progress

end TorrentAdmission
