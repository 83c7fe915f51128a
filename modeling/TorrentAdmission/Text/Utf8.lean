/-!
# UTF-8

Writing characters as bytes, and reading bytes either strictly or with a replacement character for
each maximal part that is not well formed.
-/

namespace TorrentAdmission.Text.Utf8

def encodeChar (c : Char) : List UInt8 :=
  let n := c.toNat
  if n < 0x80 then [.ofNat n]
  else if n < 0x800 then [.ofNat (0xc0 + n / 64), .ofNat (0x80 + n % 64)]
  else if n < 0x10000 then
    [.ofNat (0xe0 + n / 4096), .ofNat (0x80 + n / 64 % 64), .ofNat (0x80 + n % 64)]
  else
    [.ofNat (0xf0 + n / 262144), .ofNat (0x80 + n / 4096 % 64), .ofNat (0x80 + n / 64 % 64),
      .ofNat (0x80 + n % 64)]

def encode (s : List Char) : List UInt8 :=
  s.flatMap encodeChar

/-- A character of which some bytes are still to come: how many, between which bounds the next one
lies, and the bits read so far. -/
structure Begun where
  missing : Nat
  low : Nat
  high : Nat
  bits : Nat
  deriving DecidableEq, Repr

/-- What a byte at the start of a character announces. -/
inductive Lead where
  | char (c : Char)
  | more (p : Begun)
  | invalid
  deriving DecidableEq, Repr

def lead (b : UInt8) : Lead :=
  let n := b.toNat
  if n < 0x80 then .char (Char.ofNat n)
  else if n < 0xc2 then .invalid
  else if n < 0xe0 then .more ⟨1, 0x80, 0xbf, n - 0xc0⟩
  else if n = 0xe0 then .more ⟨2, 0xa0, 0xbf, 0⟩
  else if n = 0xed then .more ⟨2, 0x80, 0x9f, 0xd⟩
  else if n < 0xf0 then .more ⟨2, 0x80, 0xbf, n - 0xe0⟩
  else if n = 0xf0 then .more ⟨3, 0x90, 0xbf, 0⟩
  else if n < 0xf4 then .more ⟨3, 0x80, 0xbf, n - 0xf0⟩
  else if n = 0xf4 then .more ⟨3, 0x80, 0x8f, 4⟩
  else .invalid

/-- The character that stands for bytes that are no character. -/
def replacement : Char := Char.ofNat 0xfffd

/-- Reads `bytes` after the character begun in `p`. `none` in the result marks a place where bytes
form no character. -/
def scan : Option Begun → List UInt8 → List (Option Char)
  | none, [] => []
  | some _, [] => [none]
  | none, b :: r =>
    match lead b with
    | .char c => some c :: scan none r
    | .more p => scan (some p) r
    | .invalid => none :: scan none r
  | some p, b :: r =>
    if p.low ≤ b.toNat ∧ b.toNat ≤ p.high then
      let bits := 64 * p.bits + (b.toNat - 0x80)
      if p.missing ≤ 1 then some (Char.ofNat bits) :: scan none r
      else scan (some ⟨p.missing - 1, 0x80, 0xbf, bits⟩) r
    else
      none :: match lead b with
        | .char c => some c :: scan none r
        | .more q => scan (some q) r
        | .invalid => none :: scan none r

/-- Reads bytes with `replacement` for every maximal part that is not well formed. -/
def decodeLossy (bytes : List UInt8) : List Char :=
  (scan none bytes).map fun c => c.getD replacement

def decode? (bytes : List UInt8) : Option (List Char) :=
  (scan none bytes).mapM id

end TorrentAdmission.Text.Utf8
