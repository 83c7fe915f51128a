import TorrentAdmission.Text.Ascii
import TorrentAdmission.Text.Hex
import TorrentAdmission.Text.Utf8

/-!
# Form data

Pairs of names and values as the query of a URI carries them: joined by `&`, with `=` inside a pair,
`+` for a space and `%` with two digits for any byte.
-/

namespace TorrentAdmission.Uri.FormData

open Text

/-! ### Writing -/

def isPlain (b : UInt8) : Bool :=
  let c := Char.ofNat b.toNat
  isAsciiLetter c || isAsciiDigit c || ['*', '-', '.', '_'].contains c

/-- A byte as a percent sign and two digits in upper case. -/
def escape (b : UInt8) : List Char :=
  '%' :: (Hex.byte b).map Char.toUpper

def encodeByte (b : UInt8) : List Char :=
  if isPlain b then [Char.ofNat b.toNat] else if b = 0x20 then ['+'] else escape b

def encodePart (s : String) : List Char :=
  (Utf8.encode s.toList).flatMap encodeByte

def encodePair (pair : String × String) : List Char :=
  encodePart pair.1 ++ '=' :: encodePart pair.2

def encode : List (String × String) → List Char
  | [] => []
  | [pair] => encodePair pair
  | pair :: next :: r => encodePair pair ++ '&' :: encode (next :: r)

example : encode [("dn", "a b"), ("tr", "&=")] = "dn=a+b&tr=%26%3D".toList := by decide

/-! ### Reading -/

def percentSign : UInt8 := 0x25

def hexValue? (b : UInt8) : Option (Fin 16) :=
  Hex.value? (Char.ofNat b.toNat)

/-- Replaces every escape by its byte; a percent sign without two digits stays as it is. -/
def unescape : List UInt8 → List UInt8
  | [] => []
  | [b] => [b]
  | [b, c] => [b, c]
  | b :: h :: l :: r =>
    if b = percentSign then
      match hexValue? h, hexValue? l with
      | some x, some y => UInt8.ofNat (16 * x.val + y.val) :: unescape r
      | _, _ => b :: unescape (h :: l :: r)
    else b :: unescape (h :: l :: r)

def decodePart (bytes : List UInt8) : List Char :=
  Utf8.decodeLossy (unescape (bytes.map fun b => if b = 0x2b then 0x20 else b))

def splitAt (mark : UInt8) : List UInt8 → List (List UInt8)
  | [] => [[]]
  | b :: r =>
    if b = mark then [] :: splitAt mark r
    else match splitAt mark r with
      | part :: parts => (b :: part) :: parts
      | [] => [[b]]

/-- A pair is split at its first `=`; without one its value is empty. -/
def decodePair (bytes : List UInt8) : String × String :=
  (.ofList (decodePart (bytes.takeWhile (· != 0x3d))),
    .ofList (decodePart ((bytes.dropWhile (· != 0x3d)).drop 1)))

/-- The pairs of a query, in order. Empty parts are no pairs. -/
def pairs (query : List Char) : List (String × String) :=
  ((splitAt 0x26 (Utf8.encode query)).filter (!·.isEmpty)).map decodePair

end TorrentAdmission.Uri.FormData
