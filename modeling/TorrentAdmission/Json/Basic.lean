import TorrentAdmission.Double

/-!
# JSON values

The values a JSON text can hold. `unreadable` stands for a part of a text that is well formed but
denotes no value, so that a reader who skips that part does not have to care.
-/

namespace TorrentAdmission

/-- A JSON number. A whole number that fits a signed or unsigned 64-bit word is an integer; any
other number is a double. -/
inductive Json.Number where
  | int (value : Int)
  | double (value : Double)
  deriving DecidableEq, Repr, Inhabited

inductive Json where
  | null
  | bool (value : Bool)
  | number (value : Json.Number)
  | string (value : String)
  | array (items : List Json)
  | object (members : List (String × Json))
  /-- A string with a lone surrogate, a number beyond the range of doubles, a nesting that is
  too deep. -/
  | unreadable
  deriving Repr, Inhabited

namespace Json

def ofNat (n : Nat) : Json := .number (.int n)

def ofInt (n : Int) : Json := .number (.int n)

def ofOption : Option String → Json
  | some s => .string s
  | none => .null

def text? : Json → Option String
  | .string s => some s
  | _ => none

/-- A whole number from zero to the greatest 64-bit word. -/
def word? : Json → Option Nat
  | .number (.int (.ofNat n)) => some n
  | _ => none

mutual

def isReadable : Json → Bool
  | .unreadable => false
  | .array items => areReadable items
  | .object members => areReadableMembers members
  | _ => true

def areReadable : List Json → Bool
  | [] => true
  | v :: r => isReadable v && areReadable r

def areReadableMembers : List (String × Json) → Bool
  | [] => true
  | (_, v) :: r => isReadable v && areReadableMembers r

end

def lookup (key : String) : List (String × Json) → Option Json
  | [] => none
  | (k, v) :: r => if k = key then some v else lookup key r

end Json

end TorrentAdmission
