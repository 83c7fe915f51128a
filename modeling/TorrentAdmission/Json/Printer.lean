import TorrentAdmission.Json.Text

/-!
# Writing JSON

`Json.render` writes a value without white space, members in the order they have.
-/

namespace TorrentAdmission.Json

mutual

def write : Json → List Char → List Char
  | .null, rest => 'n' :: 'u' :: 'l' :: 'l' :: rest
  | .bool true, rest => 't' :: 'r' :: 'u' :: 'e' :: rest
  | .bool false, rest => 'f' :: 'a' :: 'l' :: 's' :: 'e' :: rest
  | .number n, rest => writeNumber n rest
  | .string s, rest => writeLiteral s rest
  | .array items, rest => '[' :: writeItems items (']' :: rest)
  | .object members, rest => '\x7b' :: writeMembers members ('\x7d' :: rest)
  | .unreadable, rest => 'n' :: 'u' :: 'l' :: 'l' :: rest

def writeItems : List Json → List Char → List Char
  | [], rest => rest
  | [v], rest => write v rest
  | v :: w :: r, rest => write v (',' :: writeItems (w :: r) rest)

def writeMembers : List (String × Json) → List Char → List Char
  | [], rest => rest
  | [(k, v)], rest => writeLiteral k (':' :: write v rest)
  | (k, v) :: m :: r, rest => writeLiteral k (':' :: write v (',' :: writeMembers (m :: r) rest))

end

def render (v : Json) : String :=
  .ofList (write v [])

end TorrentAdmission.Json
