import TorrentAdmission.Text.Hex
import TorrentAdmission.Text.Ascii
import TorrentAdmission.Json.Basic

/-!
# Universally unique identifiers

An identifier of 128 bits as its 32 hexadecimal digits, written in lower case with hyphens after
the digits 8, 12, 16 and 20.
-/

namespace TorrentAdmission

open Text

structure Uuid where
  digits : List (Fin 16)
  size : digits.length = 32
  deriving DecidableEq, Repr

namespace Uuid

/-- The identifier whose bits are those of `n`, the lowest 128 of them. -/
def ofNat (n : Nat) : Uuid where
  digits := (List.range 32).map fun i => ⟨n >>> (4 * (31 - i)) % 16, Nat.mod_lt _ (by decide)⟩
  size := by simp

instance : Inhabited Uuid := ⟨ofNat 0⟩

def ofDigits? (digits : List (Fin 16)) : Option Uuid :=
  if h : digits.length = 32 then some ⟨digits, h⟩ else none

def groups : List Nat := [8, 4, 4, 4, 12]

/-- Text in groups of the given lengths with hyphens between them. -/
def hyphenate : List Nat → List Char → List Char
  | [], s => s
  | [_], s => s
  | n :: m :: r, s => s.take n ++ '-' :: hyphenate (m :: r) (s.drop n)

def chars (u : Uuid) : List Char :=
  hyphenate groups (u.digits.map Hex.digit)

def render (u : Uuid) : String :=
  .ofList u.chars

/-- Takes the hyphens out of a text in groups of the given lengths. -/
def unhyphenate? : List Nat → List Char → Option (List Char)
  | [], s => if s = [] then some [] else none
  | [n], s => if s.length = n then some s else none
  | n :: m :: r, s =>
    match s.drop n with
    | '-' :: t => (unhyphenate? (m :: r) t).map (s.take n ++ ·)
    | _ => none

def ofPlain? (s : List Char) : Option Uuid :=
  (s.mapM Hex.value?).bind ofDigits?

def ofHyphenated? (s : List Char) : Option Uuid :=
  (unhyphenate? groups s).bind ofPlain?

/-- The scheme and namespace of an identifier written as a URN. -/
def urnHead : List Char := "urn:uuid:".toList

/-- Reads an identifier of 32 digits, with or without hyphens. The form with hyphens may stand in
braces or behind `urn:uuid:`. Letters count in either case. -/
def ofChars? (s : List Char) : Option Uuid :=
  if s.length = 32 then ofPlain? s
  else if s.length = 36 then ofHyphenated? s
  else if s.length = 38 ∧ s.head? = some '\x7b' ∧ s.getLast? = some '\x7d' then
    ofHyphenated? ((s.drop 1).take 36)
  else if s.length = 45 ∧ (s.take 9).map lowerAscii = urnHead then ofHyphenated? (s.drop 9)
  else none

def parse? (s : String) : Option Uuid :=
  ofChars? s.toList

def toJson (u : Uuid) : Json := .string u.render

def ofJson? (v : Json) : Option Uuid :=
  v.text?.bind parse?

end Uuid

end TorrentAdmission
