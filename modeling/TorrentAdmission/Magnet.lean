import TorrentAdmission.Text.Blank
import TorrentAdmission.Uri.FormData
import TorrentAdmission.Uri.Query

/-!
# Magnet links

What a magnet link says about its torrent: the info-hash, a name to show, and the trackers.
-/

namespace TorrentAdmission

structure MagnetLink where
  infoHash : Option String
  displayName : Option String
  trackers : List String
  deriving DecidableEq, Repr

namespace MagnetLink

def scheme : String := "magnet"

def hashNamespace : String := "urn:btih:"

def topicHash? (topic : String) : Option String :=
  let s := topic.toList
  let ns := hashNamespace.toList
  if ns.isPrefixOf s ∧ s.length ≠ ns.length then
    some (Text.toLowerAscii (.ofList (s.drop ns.length)))
  else none

/-- The name to show, if any is left after trimming. -/
def shownName? (value : String) : Option String :=
  let name := Text.trim value
  if name.isEmpty then none else some name

/-- Takes one pair of the query into account. The first usable topic and the first name that is not
blank count; trackers add up. -/
def addPair (link : MagnetLink) (pair : String × String) : MagnetLink :=
  if pair.1 = "xt" then { link with infoHash := link.infoHash <|> topicHash? pair.2 }
  else if pair.1 = "dn" then { link with displayName := link.displayName <|> shownName? pair.2 }
  else if pair.1 = "tr" ∧ !pair.2.isEmpty then { link with trackers := link.trackers ++ [pair.2] }
  else link

def ofPairs (pairs : List (String × String)) : MagnetLink :=
  pairs.foldl addPair ⟨none, none, []⟩

/-- Reads a magnet link. Anything else that is a URI, or none, is no link. -/
def parse? (text : String) : Option MagnetLink := do
  let uri ← Uri.parse? text
  if uri.scheme = scheme then some (ofPairs (Uri.FormData.pairs (uri.query.getD []))) else none

end MagnetLink

end TorrentAdmission
