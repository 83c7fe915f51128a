import TorrentAdmission.Torrent.Info
import TorrentAdmission.Torrent.Prefetched
import TorrentAdmission.Uuid

/-!
# Resolved torrents

A torrent with the key it is announced under and its description, into which the name of its file
is entered.
-/

namespace TorrentAdmission

inductive TorrentKey where
  /-- The submission itself, where no info-hash was found on the way. -/
  | submission (id : Uuid)
  | infoHash (hash : InfoHash)
  deriving DecidableEq, Repr

namespace TorrentKey

def render : TorrentKey → String
  | .submission id => id.render
  | .infoHash hash => hash.text

def toJson : TorrentKey → Json
  | .submission id => .object [("kind", .string "correlation"), ("value", id.toJson)]
  | .infoHash hash => .object [("kind", .string "info_hash"), ("value", hash.toJson)]

def ofParts? (kind : String) (value : Json) : Option TorrentKey :=
  if kind = "correlation" then (Uuid.ofJson? value).map .submission
  else if kind = "info_hash" then (InfoHash.ofJson? value).map .infoHash
  else none

/-- The kind is a string, or in an object any name that stands alone. -/
def kind? (v kind : Json) : Option String :=
  match v with
  | .array _ => kind.text?
  | _ => kind.unitName?

def ofJson? (v : Json) : Option TorrentKey := do
  let fields ← v.fields? .skip ["kind", "value"]
  ofParts? (← kind? v (← Json.lookup "kind" fields)) (← Json.lookup "value" fields)

end TorrentKey

structure Torrent where
  key : TorrentKey
  filename : String
  info : Info

namespace Torrent

/-- The field of a description that holds the name of the file. -/
def filenameField : String := "filename"

/-- The torrent that `info` describes, found in the file or link `filename`. -/
def describe (key : TorrentKey) (filename : String) (info : Info) : Torrent :=
  ⟨key, filename, info.setText filenameField filename⟩

def name? (t : Torrent) : Option String :=
  t.info.text? "name"

def toJson (t : Torrent) : Json :=
  .object [("torrent_id", t.key.toJson), ("filename", .string t.filename), ("info", t.info.toJson)]

def ofJson? (v : Json) : Option Torrent := do
  let fields ← v.fields? .skip ["torrent_id", "filename", "info"]
  return ⟨← Json.required? TorrentKey.ofJson? "torrent_id" fields,
    ← Json.required? Json.text? "filename" fields, ← Json.required? Info.ofJson? "info" fields⟩

end Torrent

end TorrentAdmission
