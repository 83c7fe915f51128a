import TorrentAdmission.Json.Text

/-!
# Reading JSON

`Json.parse?` reads a text that holds one value and nothing else but white space. The grammar is
strict: no comments, no commas at an end, no control characters in strings, no zeros in front of a
number. An array or object that stands inside `depthLimit` others has no value any more.
-/

namespace TorrentAdmission.Json

/-- The number of arrays and objects that may stand inside one another. -/
def depthLimit : Nat := 127

/-- A string literal after its opening quote: its text, unless a surrogate stands alone, and what
follows it. -/
def literal? (s : List Char) : Option (Option String × List Char) :=
  (literalUnits s).map fun u => ((joinUnits u.1).map String.ofList, u.2)

/-- What to make of the parts of an array or object when `room` more levels are allowed. -/
def nested (room : Nat) (value : Json) : Json :=
  if room = 0 then .unreadable else value

/-! Each of the following functions reads from a text and gives back what follows the part it has
read. A call passes on less text than it was given, so fuel for every character is enough. -/

mutual

def readValue : (fuel room : Nat) → List Char → Option (Json × List Char)
  | 0, _, _ => none
  | fuel + 1, room, s =>
    match skipSpace s with
    | 'n' :: 'u' :: 'l' :: 'l' :: r => some (.null, r)
    | 't' :: 'r' :: 'u' :: 'e' :: r => some (.bool true, r)
    | 'f' :: 'a' :: 'l' :: 's' :: 'e' :: r => some (.bool false, r)
    | '"' :: r => (literal? r).map fun t => (t.1.elim .unreadable .string, t.2)
    | '[' :: r =>
      match skipSpace r with
      | ']' :: r => some (nested room (.array []), r)
      | r => (readItems fuel (room - 1) r).map fun t => (nested room (.array t.1), t.2)
    | '\x7b' :: r =>
      match skipSpace r with
      | '\x7d' :: r => some (nested room (.object []), r)
      | r => (readMembers fuel (room - 1) r).map fun t =>
          (t.1.elim .unreadable fun members => nested room (.object members), t.2)
    | r => numeral? r

def readItems : (fuel room : Nat) → List Char → Option (List Json × List Char)
  | 0, _, _ => none
  | fuel + 1, room, s => do
    let (item, r) ← readValue fuel room s
    match skipSpace r with
    | ']' :: r => return ([item], r)
    | ',' :: r =>
      let (items, r) ← readItems fuel room r
      return (item :: items, r)
    | _ => none

/-- The members of an object up to its closing brace; nothing if a key has no value. -/
def readMembers : (fuel room : Nat) → List Char → Option (Option (List (String × Json)) × List Char)
  | 0, _, _ => none
  | fuel + 1, room, s =>
    match skipSpace s with
    | '"' :: r => do
      let (key, r) ← literal? r
      match skipSpace r with
      | ':' :: r =>
        let (value, r) ← readValue fuel room r
        match skipSpace r with
        | '\x7d' :: r => return (key.map fun k => [(k, value)], r)
        | ',' :: r =>
          let (members, r) ← readMembers fuel room r
          return (key.bind fun k => members.map ((k, value) :: ·), r)
        | _ => none
      | _ => none
    | _ => none

end

def parse? (text : String) : Option Json :=
  let s := text.toList
  match readValue (s.length + 1) depthLimit s with
  | some (v, r) => if skipSpace r = [] then some v else none
  | none => none

end TorrentAdmission.Json
