/-!
# Hexadecimal digits

Single digits, and bytes as pairs of digits.
-/

namespace TorrentAdmission.Text.Hex

/-- The lower-case digit of a value below sixteen. -/
def digit (n : Fin 16) : Char :=
  if n.val < 10 then Char.ofNat ('0'.toNat + n.val) else Char.ofNat ('a'.toNat + (n.val - 10))

def value? (c : Char) : Option (Fin 16) :=
  if h : '0'.toNat ≤ c.toNat ∧ c.toNat ≤ '9'.toNat then
    some ⟨c.toNat - '0'.toNat, by have : '0'.toNat = 48 := rfl; have : '9'.toNat = 57 := rfl; omega⟩
  else if h : 'a'.toNat ≤ c.toNat ∧ c.toNat ≤ 'f'.toNat then
    some ⟨c.toNat - 'a'.toNat + 10, by have : 'a'.toNat = 97 := rfl; have : 'f'.toNat = 102 := rfl; omega⟩
  else if h : 'A'.toNat ≤ c.toNat ∧ c.toNat ≤ 'F'.toNat then
    some ⟨c.toNat - 'A'.toNat + 10, by have : 'A'.toNat = 65 := rfl; have : 'F'.toNat = 70 := rfl; omega⟩
  else none

theorem value?_digit (n : Fin 16) : value? (digit n) = some n := by
  revert n; decide

/-- The digits of `n` without zeros in front. -/
def digits (n : Nat) : List Char :=
  Nat.toDigits 16 n

def byte (b : UInt8) : List Char :=
  [digit ⟨b.toNat / 16, by have := b.toNat_lt; omega⟩, digit ⟨b.toNat % 16, Nat.mod_lt _ (by decide)⟩]

/-- Bytes as lower-case digits, two for each byte. -/
def encode (bytes : List UInt8) : String :=
  .ofList (bytes.flatMap byte)

def decodeChars : List Char → Option (List UInt8)
  | [] => some []
  | h :: l :: r => do
    let high ← value? h
    let low ← value? l
    return UInt8.ofNat (16 * high.val + low.val) :: (← decodeChars r)
  | [_] => none

def decode? (s : String) : Option (List UInt8) :=
  decodeChars s.toList

end TorrentAdmission.Text.Hex
