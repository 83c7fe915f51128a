/-!
# Topics of notices

What the program reports about its own work, kind by kind: how urgent a notice on the topic is, which
part of the program gives it, its words, and the fields it may have.
-/

namespace TorrentAdmission

inductive Level where
  | error
  | warn
  | info
  | debug
  | trace
  deriving DecidableEq, Repr

namespace Level

def label : Level → String
  | .error => "ERROR"
  | .warn => "WARN"
  | .info => "INFO"
  | .debug => "DEBUG"
  | .trace => "TRACE"

/-- From the most to the least urgent: 1 to 5. -/
def rank : Level → Nat
  | .error => 1
  | .warn => 2
  | .info => 3
  | .debug => 4
  | .trace => 5

end Level

inductive Reporter where
  | settings
  | admission
  | lookup
  | handle
  | startup
  deriving DecidableEq, Repr

/-- The name under which a filter directive addresses a part of the program. -/
def Reporter.target : Reporter → String
  | .settings => "intake_config::loader"
  | .admission => "intake_resolver::resolver"
  | .lookup => "intake_resolver::paths"
  | .handle => "intake_resolver::submission"
  | .startup => "intake_resolver::bootstrap"

inductive Topic where
  /-- A variable is about to be entered into the settings. -/
  | overlay
  | ready
  | accepted
  | downloaded
  | lookupFailed
  | prefetchFailed
  /-- The bytes of prefetched metadata cannot be decoded. -/
  | prefetchUnusable
  | prefetched
  | resolved
  | failed
  | cancelled
  /-- A task came to no end of its own. -/
  | dropped
  /-- The owner of a submission hears that its task came to no end. -/
  | aborted
  deriving DecidableEq, Repr

namespace Topic

def level : Topic → Level
  | .overlay | .downloaded | .lookupFailed | .prefetchFailed | .prefetchUnusable | .prefetched => .debug
  | .ready | .accepted | .resolved | .cancelled => .info
  | .failed | .dropped | .aborted => .warn

def reporter : Topic → Reporter
  | .overlay => .settings
  | .ready => .startup
  | .downloaded | .lookupFailed | .prefetchFailed | .prefetchUnusable | .prefetched => .lookup
  | .accepted | .resolved | .failed | .cancelled | .dropped => .admission
  | .aborted => .handle

def message : Topic → String
  | .overlay => "applying environment override"
  | .ready => "intake resolver ready"
  | .accepted => "submission accepted"
  | .downloaded => "torrent file downloaded"
  | .lookupFailed => "magnet info lookup failed"
  | .prefetchFailed => "metadata prefetch failed"
  | .prefetchUnusable => "prefetched metadata unusable"
  | .prefetched => "magnet metadata prefetched"
  | .resolved => "torrent resolved"
  | .failed => "torrent resolution failed"
  | .cancelled => "submission cancelled"
  | .dropped => "resolution task dropped before settling"
  | .aborted => "resolution task aborted"

/-- The names of the fields beside the message. A notice need not have a value for each. -/
def ownFields : Topic → List String
  | .overlay => ["variable"]
  | .ready => ["call_timeout_ms", "prefetch_timeout_ms", "replay_capacity"]
  | .accepted => ["correlation_id", "source_kind"]
  | .downloaded => ["filename"]
  | .lookupFailed | .prefetchFailed | .prefetchUnusable => ["error"]
  | .prefetched => ["info_hash", "bytes"]
  | .resolved => ["torrent_id", "name", "path"]
  | .failed => ["error", "operation"]
  | .cancelled => []
  | .dropped => ["correlation_id"]
  | .aborted => ["correlation_id", "error"]

def fieldNames (t : Topic) : List String := "message" :: t.ownFields

end Topic

end TorrentAdmission
