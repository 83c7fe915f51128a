import TorrentAdmission.Failure
import TorrentAdmission.Text.Base64
import TorrentAdmission.Text.Blank

/-!
# Fetched metadata

What a backend hands over when it has fetched the metadata of a magnet link: an info-hash, and the
metadata in base64.
-/

namespace TorrentAdmission

open Text

/-- An info-hash as the backend reported it. -/
structure InfoHash where
  text : String
  deriving DecidableEq, Repr

namespace InfoHash

/-- Takes a reported info-hash without the blanks around it. -/
def ofReported (reported : String) : Except Failure InfoHash :=
  let hash := trim reported
  if hash.isEmpty then .error (.blankHash reported) else .ok ⟨hash⟩

def toJson (h : InfoHash) : Json := .string h.text

def ofJson? (v : Json) : Option InfoHash :=
  v.text?.map InfoHash.mk

end InfoHash

structure Prefetched where
  infoHash : String
  metadata : String
  deriving DecidableEq, Repr

namespace Prefetched

/-- The bytes of the metadata, of which there has to be one at least. -/
def bytes (p : Prefetched) : Except Failure (List UInt8) :=
  match Base64.decode? (trimChars p.metadata.toList) with
  | none => .error (.unusable p.infoHash Failure.notBase64)
  | some [] => .error (.unusable p.infoHash Failure.noMetadata)
  | some bytes => .ok bytes

def ofBytes (infoHash : String) (bytes : List UInt8) : Prefetched :=
  ⟨infoHash, .ofList (Base64.encode bytes)⟩

def toJson (p : Prefetched) : Json :=
  .object [("info_hash", .string p.infoHash), ("metadata", .string p.metadata)]

def ofJson? (v : Json) : Option Prefetched := do
  let fields ← v.fields? .skip ["info_hash", "metadata"]
  return ⟨← Json.required? Json.text? "info_hash" fields, ← Json.required? Json.text? "metadata" fields⟩

end Prefetched

end TorrentAdmission
