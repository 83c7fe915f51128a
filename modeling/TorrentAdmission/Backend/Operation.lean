import TorrentAdmission.Json.Record

/-!
# Backend operations

The four calls a backend answers, with the names they have in errors and on the wire.
-/

namespace TorrentAdmission

inductive Operation where
  | magnetInfo
  | prefetch
  | download
  | torrentInfo
  deriving DecidableEq, Repr

namespace Operation

def wireName : Operation → String
  | .magnetInfo => "get_magnet_info"
  | .prefetch => "prefetch_magnet_metadata"
  | .download => "download_torrent_from_url"
  | .torrentInfo => "get_torrent_info"

def all : List Operation := [.magnetInfo, .prefetch, .download, .torrentInfo]

def ofWireName? (name : String) : Option Operation :=
  all.find? fun op => op.wireName == name

def toJson (op : Operation) : Json := .string op.wireName

def ofJson? (v : Json) : Option Operation :=
  v.unitName?.bind ofWireName?

end Operation

end TorrentAdmission
