import TorrentAdmission.Json.Canonical

/-!
# Torrent descriptions

The fields with which a backend describes a torrent, as a finite map from names to JSON values.
-/

namespace TorrentAdmission

structure Info where
  members : List (String × Json)
  isMap : Json.IsMap members

namespace Info

instance : Inhabited Info := ⟨⟨[], .nil⟩⟩

/-- The map that members denote: of several with one name the last counts. -/
def ofMembers (members : List (String × Json)) : Info :=
  ⟨Json.normalMembers [] members, Json.IsMap.nil.normalMembers members⟩

def get? (info : Info) (name : String) : Option Json :=
  Json.lookup name info.members

/-- The field `name` set to a text, whatever it was before. -/
def setText (info : Info) (name text : String) : Info :=
  ⟨Json.insert name (.string text) info.members, info.isMap.insert name rfl⟩

def text? (info : Info) (name : String) : Option String :=
  (info.get? name).bind Json.text?

def toJson (info : Info) : Json := .object info.members

def ofJson? (v : Json) : Option Info :=
  match v with
  | .object members => if v.isReadable then some (ofMembers members) else none
  | _ => none

theorem get?_setText_self (info : Info) (name text : String) :
    (info.setText name text).get? name = some (.string text) :=
  Json.lookup_insert_self ..

theorem get?_setText_of_ne (info : Info) {name other : String} (text : String) (h : other ≠ name) :
    (info.setText name text).get? other = info.get? other :=
  Json.lookup_insert_of_ne _ _ h

end Info

end TorrentAdmission
