import TorrentAdmission.Text.Ascii

/-!
# Decimal numerals

Writing natural numbers in decimal, with or without a fixed width, and reading them back.
-/

namespace TorrentAdmission.Text.Decimal

/-- The decimal digits of `n`, most significant first. -/
def digits (n : Nat) : List Char :=
  Nat.toDigits 10 n

/-- `n` in at least `width` digits, with zeros in front. -/
def padded (width n : Nat) : List Char :=
  List.replicate (width - (digits n).length) '0' ++ digits n

def render (n : Nat) : String :=
  .ofList (digits n)

def renderInt : Int → String
  | .ofNat n => render n
  | .negSucc n => .ofList ('-' :: digits (n + 1))

def digit? (c : Char) : Option Nat :=
  if Text.isAsciiDigit c then some (c.toNat - '0'.toNat) else none

/-- The value of a run of digits read after `n`. -/
def valueFrom (n : Nat) : List Char → Nat
  | [] => n
  | c :: r => valueFrom (10 * n + (c.toNat - '0'.toNat)) r

/-- The value of a text that consists of one or more decimal digits. -/
def natural? : List Char → Option Nat
  | [] => none
  | c :: r => if (c :: r).all isAsciiDigit then some (valueFrom 0 (c :: r)) else none

/-- The greatest value of a 64-bit word. -/
def wordMax : Nat := 0xffffffffffffffff

/-- A 64-bit word: digits, with at most one plus sign in front of them. -/
def word? (s : List Char) : Option Nat :=
  let unsigned := match s with
    | '+' :: r => r
    | r => r
  (natural? unsigned).filter (· ≤ wordMax)

end TorrentAdmission.Text.Decimal
