import TorrentAdmission.Json.Basic
import TorrentAdmission.Log.Topic

/-!
# Notices

A single report on a topic: its fields with their values, and the submission on whose behalf it was
made.
-/

namespace TorrentAdmission

inductive FieldValue where
  /-- A text that a reader of plain lines sees in quotes. -/
  | text (s : String)
  /-- A value in its own words, shown as it is. -/
  | shown (s : String)
  | count (n : Nat)
  deriving DecidableEq, Repr

def FieldValue.toJson : FieldValue → Json
  | .text s => .string s
  | .shown s => .string s
  | .count n => .ofNat n

abbrev Fields := List (String × FieldValue)

def Fields.toJson (fields : Fields) : Json :=
  .object (fields.map fun f => (f.1, f.2.toJson))

/-- A field that is only there when it has a value. -/
def optionalText (name : String) (value : Option String) : Fields :=
  value.toList.map fun s => (name, .text s)

/-! ### The span of submissions -/

namespace Span

/-- The name under which the resolution of a submission is reported. -/
def name : String := "ingest"

def level : Level := .info

def reporter : Reporter := .admission

def fieldNames : List String := ["correlation_id", "source_kind", "magnet_info_hash", "trackers"]

end Span

structure Notice where
  topic : Topic
  fields : Fields := []
  /-- The fields of the submission that is being resolved. -/
  span : Option Fields := none
  deriving DecidableEq, Repr

namespace Notice

def toJson (n : Notice) : Json :=
  .object [("level", .string n.topic.level.label), ("message", .string n.topic.message),
    ("fields", n.fields.toJson),
    ("span", match n.span with
      | none => .null
      | some fields => .object [("name", .string Span.name), ("fields", fields.toJson)])]

end Notice

end TorrentAdmission
