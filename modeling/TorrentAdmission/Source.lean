import TorrentAdmission.Json.Record
import TorrentAdmission.Magnet

/-!
# Sources

What a user submits: a text that is either a magnet link with an info-hash topic or the address of
a torrent file, together with cookies for a download.
-/

namespace TorrentAdmission

inductive SourceKind where
  | magnet
  | direct
  deriving DecidableEq, Repr

namespace SourceKind

def label : SourceKind → String
  | .magnet => "magnet"
  | .direct => "direct"

def magnetHead : String := "magnet:?"

/-- The topic that a magnet link has to name somewhere. -/
def hashTopic : String := "xt=urn:btih"

def occursIn (part : List Char) : List Char → Bool
  | [] => part.isEmpty
  | c :: r => part.isPrefixOf (c :: r) || occursIn part r

/-- The kind of a submitted text. Every text has one; what is no magnet link is taken for an
address. -/
def of (text : String) : SourceKind :=
  if magnetHead.toList.isPrefixOf text.toList && occursIn hashTopic.toList text.toList then .magnet
  else .direct

def toJson (k : SourceKind) : Json := .string k.label

def ofLabel? (s : String) : Option SourceKind :=
  if s = "magnet" then some .magnet else if s = "direct" then some .direct else none

def ofJson? (v : Json) : Option SourceKind :=
  v.unitName?.bind ofLabel?

end SourceKind

/-- A submitted text with its kind settled. Cookies are kept for a download only. -/
inductive Source where
  | magnet (uri : String)
  | direct (url cookies : String)
  deriving DecidableEq, Repr

namespace Source

def kind : Source → SourceKind
  | .magnet _ => .magnet
  | .direct _ _ => .direct

def text : Source → String
  | .magnet uri => uri
  | .direct url _ => url

/-- The magnet link behind a source, if it is one that can be read. -/
def link? : Source → Option MagnetLink
  | .magnet uri => MagnetLink.parse? uri
  | .direct _ _ => none

def toJson : Source → Json
  | .magnet uri => .object [("type", .string "magnet"), ("uri", .string uri)]
  | .direct url cookies =>
    .object [("type", .string "direct"), ("url", .string url), ("cookies", .string cookies)]

def ofJson? (v : Json) : Option Source := do
  let (tag, record) ← v.tagged? "type"
  if tag = "magnet" then
    let fields ← record.fields? .skip ["uri"]
    return .magnet (← Json.required? Json.text? "uri" fields)
  else if tag = "direct" then
    let fields ← record.fields? .skip ["url", "cookies"]
    return .direct (← Json.required? Json.text? "url" fields)
      (← Json.required? Json.text? "cookies" fields)
  else none

end Source

/-- A submission as the user enters it. -/
structure Request where
  source : String
  cookies : String := ""
  deriving DecidableEq, Repr

namespace Request

def route (r : Request) : Source :=
  match SourceKind.of r.source with
  | .magnet => .magnet r.source
  | .direct => .direct r.source r.cookies

def toJson (r : Request) : Json :=
  .object [("source", .string r.source), ("cookies", .string r.cookies)]

def ofJson? (v : Json) : Option Request := do
  let fields ← v.fields? .skip ["source", "cookies"]
  return ⟨← Json.required? Json.text? "source" fields, ← Json.orDefault? Json.text? "" "cookies" fields⟩

end Request

end TorrentAdmission
