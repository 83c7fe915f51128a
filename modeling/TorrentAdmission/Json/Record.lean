import TorrentAdmission.Json.Parser

/-!
# Records in JSON

A record is written as an object with its fields as members. A reader also takes an array of the
field values in the order of declaration, of which the last ones may be left out. A sum of records
carries the name of its alternative in a tag.
-/

namespace TorrentAdmission.Json

/-- What to do with a member whose key names no field. -/
inductive UnknownMembers where
  | skip
  | refuse
  deriving DecidableEq, Repr

def repeats (counts : String → Bool) : List (String × Json) → Bool
  | [] => false
  | (k, _) :: r => (counts k && r.any fun m => m.1 == k) || repeats counts r

/-- The values of the fields that a record states, by name. -/
def fields? (unknown : UnknownMembers) (names : List String) : Json → Option (List (String × Json))
  | .object members =>
    if repeats names.contains members then none
    else if unknown = .refuse ∧ members.any (fun m => !names.contains m.1) then none
    else some (members.filter fun m => names.contains m.1)
  | .array items => if names.length < items.length then none else some (names.zip items)
  | _ => none

def required? (read : Json → Option α) (name : String) (fields : List (String × Json)) : Option α :=
  (lookup name fields).bind read

/-- Reads a field that has a default value when it is not stated. -/
def orDefault? (read : Json → Option α) (default : α) (name : String)
    (fields : List (String × Json)) : Option α :=
  match lookup name fields with
  | some v => read v
  | none => some default

def nullable? (read : Json → Option α) : Json → Option (Option α)
  | .null => some none
  | v => (read v).map some

/-- A sum of records with the tag among the fields: the tag, and the rest as a record. The whole
value is read before the tag is known, so every part of it has to be readable. -/
def tagged? (tag : String) : Json → Option (String × Json)
  | .object members => do
    if repeats (· == tag) members then none
    let name ← required? text? tag members
    let rest := members.filter fun m => m.1 != tag
    if areReadableMembers rest then some (name, .object rest) else none
  | .array (.string name :: items) => if areReadable items then some (name, .array items) else none
  | _ => none

/-- A name alone, as a string or as the only key of an object that maps it to null. -/
def unitName? : Json → Option String
  | .string name => some name
  | .object [(name, .null)] => some name
  | _ => none

end TorrentAdmission.Json
