import TorrentAdmission.Json.Record
import TorrentAdmission.Time.Timestamp
import TorrentAdmission.Torrent.Info
import TorrentAdmission.Uuid

/-!
# Events

What is announced about a submission: that it was accepted, and later the one way in which it
ended. An envelope adds a number and a time.
-/

namespace TorrentAdmission

inductive Event where
  | accepted (submission : Uuid) (source : String) (nameHint : Option String)
  | added (submission : Uuid) (torrent : String) (info : Info)
  | failed (submission : Uuid) (operation : Option String) (reason : String)
  | cancelled (submission : Uuid)

namespace Event

/-- The name of the kind of an event in counters and summaries. -/
def kind : Event → String
  | .accepted .. => "beforeadd"
  | .added .. => "add"
  | .failed .. => "add_failed"
  | .cancelled .. => "add_cancelled"

def submission : Event → Uuid
  | .accepted id _ _ => id
  | .added id _ _ => id
  | .failed id _ _ => id
  | .cancelled id => id

def isTerminal : Event → Bool
  | .accepted .. => false
  | _ => true

def toJson : Event → Json
  | .accepted id source hint =>
    .object [("type", .string "before_add"), ("correlation_id", id.toJson), ("source", .string source),
      ("name_hint", .ofOption hint)]
  | .added id torrent info =>
    .object [("type", .string "add"), ("correlation_id", id.toJson), ("torrent_id", .string torrent),
      ("info", info.toJson)]
  | .failed id operation reason =>
    .object [("type", .string "add_failed"), ("correlation_id", id.toJson),
      ("operation", .ofOption operation), ("reason", .string reason)]
  | .cancelled id => .object [("type", .string "add_cancelled"), ("correlation_id", id.toJson)]

def ofJson? (v : Json) : Option Event := do
  let (tag, record) ← v.tagged? "type"
  if tag = "before_add" then
    let fields ← record.fields? .skip ["correlation_id", "source", "name_hint"]
    return .accepted (← Json.required? Uuid.ofJson? "correlation_id" fields)
      (← Json.required? Json.text? "source" fields)
      (← Json.orDefault? (Json.nullable? Json.text?) none "name_hint" fields)
  else if tag = "add" then
    let fields ← record.fields? .skip ["correlation_id", "torrent_id", "info"]
    return .added (← Json.required? Uuid.ofJson? "correlation_id" fields)
      (← Json.required? Json.text? "torrent_id" fields) (← Json.required? Info.ofJson? "info" fields)
  else if tag = "add_failed" then
    let fields ← record.fields? .skip ["correlation_id", "operation", "reason"]
    return .failed (← Json.required? Uuid.ofJson? "correlation_id" fields)
      (← Json.orDefault? (Json.nullable? Json.text?) none "operation" fields)
      (← Json.required? Json.text? "reason" fields)
  else if tag = "add_cancelled" then
    let fields ← record.fields? .skip ["correlation_id"]
    return .cancelled (← Json.required? Uuid.ofJson? "correlation_id" fields)
  else none

end Event

/-- An event as it is handed on: numbered and dated. -/
structure Envelope where
  id : Nat
  timestamp : Timestamp
  event : Event

namespace Envelope

def toJson (e : Envelope) : Json :=
  .object [("id", .ofNat e.id), ("timestamp", e.timestamp.toJson), ("event", e.event.toJson)]

def ofJson? (v : Json) : Option Envelope := do
  let fields ← v.fields? .skip ["id", "timestamp", "event"]
  return ⟨← Json.required? Json.word? "id" fields, ← Json.required? Timestamp.ofJson? "timestamp" fields,
    ← Json.required? Event.ofJson? "event" fields⟩

end Envelope

end TorrentAdmission
