import TorrentAdmission.Torrent.Info
import TorrentAdmission.Torrent.Prefetched

/-!
# Samples

Sources, answers and metadata to try a desk with.
-/

namespace TorrentAdmission.Samples

/-- The shortest magnet link that is taken for one. -/
def magnetUri : String := "magnet:?xt=urn:btih:ABC123"

/-- A magnet link with a hash of full length, a name and a tracker. -/
def namedMagnetUri : String :=
  "magnet:?xt=urn:btih:0123456789abcdef0123456789abcdef01234567&dn=demo&tr=udp%3A%2F%2Ftracker.example%3A80"

def infoHash : String := "0123456789abcdef0123456789abcdef01234567"

def directUrl : String := "http://example.com/a.torrent"

def cookies : String := "sid=1"

def filename : String := "a.torrent"

def metadata : String := "d6:lengthi1024e4:name4:demoe"

/-- A description of a torrent with one file of the given name. -/
def info (name : String) : Info :=
  .ofMembers [("name", .string name), ("info_hash", .string infoHash),
    ("files_tree", .object [("contents", .object [(name, .object
      [("index", .ofNat 0), ("length", .ofNat 1024), ("type", .string "file")])])])]

end TorrentAdmission.Samples
