import TorrentAdmission.Json.Basic
import TorrentAdmission.Text.Decimal
import TorrentAdmission.Text.Hex

/-!
# String literals and numerals of JSON

The body of a string literal is first read as code units, each character or `\u` escape by itself;
`joinUnits` then pairs the surrogates. A numeral is read into `Number`, unless its value is beyond
the range of doubles.
-/

namespace TorrentAdmission.Json

open Text (isAsciiDigit)

def isSpace (c : Char) : Bool :=
  c == ' ' || c == '\n' || c == '\t' || c == '\r'

def skipSpace (s : List Char) : List Char :=
  s.dropWhile isSpace

/-! ### String literals -/

def shortEscape? (c : Char) : Option Nat :=
  if c = '"' ∨ c = '\\' ∨ c = '/' then some c.toNat
  else if c = 'b' then some 8
  else if c = 'f' then some 12
  else if c = 'n' then some 10
  else if c = 'r' then some 13
  else if c = 't' then some 9
  else none

def hexUnit? (a b c d : Char) : Option Nat := do
  return 4096 * (← Text.Hex.value? a).val + 256 * (← Text.Hex.value? b).val
    + 16 * (← Text.Hex.value? c).val + (← Text.Hex.value? d).val

/-- Reads up to the closing quote: the code units in front of it and the text behind it. -/
def literalUnits : List Char → Option (List Nat × List Char)
  | [] => none
  | '"' :: r => some ([], r)
  | '\\' :: 'u' :: a :: b :: c :: d :: r => do
    let unit ← hexUnit? a b c d
    let (units, rest) ← literalUnits r
    return (unit :: units, rest)
  | '\\' :: e :: r => do
    let unit ← shortEscape? e
    let (units, rest) ← literalUnits r
    return (unit :: units, rest)
  | c :: r =>
    if c.toNat < 0x20 ∨ c = '\\' then none
    else do
      let (units, rest) ← literalUnits r
      return (c.toNat :: units, rest)

def isHighSurrogate (n : Nat) : Bool := decide (0xd800 ≤ n ∧ n < 0xdc00)

def isLowSurrogate (n : Nat) : Bool := decide (0xdc00 ≤ n ∧ n < 0xe000)

/-- The characters of a run of code units, unless a surrogate stands alone. -/
def joinUnits : List Nat → Option (List Char)
  | [] => some []
  | h :: l :: r =>
    if isHighSurrogate h then
      if isLowSurrogate l then
        (joinUnits r).map (Char.ofNat (0x10000 + 1024 * (h - 0xd800) + (l - 0xdc00)) :: ·)
      else none
    else if isLowSurrogate h then none
    else (joinUnits (l :: r)).map (Char.ofNat h :: ·)
  | [n] => if isHighSurrogate n || isLowSurrogate n then none else some [Char.ofNat n]

/-! ### Numerals -/

/-- The value of as many of the digits as fit a 64-bit word behind the digits of `n`, and how many
they are. -/
def fitting (n : Nat) : List Char → Nat × Nat
  | [] => (n, 0)
  | c :: r =>
    let longer := Text.Decimal.valueFrom n [c]
    if longer ≤ Text.Decimal.wordMax then
      let (value, count) := fitting longer r
      (value, count + 1)
    else (n, 0)

/-- The number with these digits in its whole part and its decimal places, times a power of ten. Digits
that do not fit are left out. -/
def double (negative : Bool) (whole places : List Char) (exponent : Int) : Json :=
  let (front, k) := fitting 0 whole
  let (digits, j) := fitting front places
  match Double.ofDecimal? negative digits (exponent + (whole.length - k : Nat) - j) with
  | some d => .number (.double d)
  | none => .unreadable

/-- A whole number as an integer if it fits a 64-bit word, and as a double otherwise. -/
def wholeNumber (negative : Bool) (whole : List Char) : Json :=
  let n := Text.Decimal.valueFrom 0 whole
  if negative then
    if 0 < n ∧ n ≤ 0x8000000000000000 then .number (.int (-n)) else double true whole [] 0
  else if n ≤ Text.Decimal.wordMax then .number (.int n)
  else double false whole [] 0

def digitRun? (s : List Char) : Option (List Char × List Char) :=
  match s.span isAsciiDigit with
  | ([], _) => none
  | r => some r

def exponent? (s : List Char) : Option (Int × List Char) :=
  match s with
  | '-' :: r => (digitRun? r).map fun d => (-(Text.Decimal.valueFrom 0 d.1 : Int), d.2)
  | '+' :: r => (digitRun? r).map fun d => ((Text.Decimal.valueFrom 0 d.1 : Int), d.2)
  | r => (digitRun? r).map fun d => ((Text.Decimal.valueFrom 0 d.1 : Int), d.2)

/-- What follows the whole part and the decimal places of a numeral. -/
def numeralEnd? (negative : Bool) (whole places : List Char) (s : List Char) :
    Option (Json × List Char) :=
  match s with
  | 'e' :: r | 'E' :: r => (exponent? r).map fun x => (double negative whole places x.1, x.2)
  | r =>
    if places = [] then some (wholeNumber negative whole, r)
    else some (double negative whole places 0, r)

/-- A numeral after its sign. No zero stands in front of other digits of the whole part. -/
def unsigned? (negative : Bool) (s : List Char) : Option (Json × List Char) := do
  let (whole, rest) ← digitRun? s
  if whole.head? = some '0' ∧ whole ≠ ['0'] then none
  else match rest with
    | '.' :: r =>
      let (places, rest) ← digitRun? r
      numeralEnd? negative whole places rest
    | r => numeralEnd? negative whole [] r

def numeral? (s : List Char) : Option (Json × List Char) :=
  match s with
  | '-' :: r => unsigned? true r
  | r => unsigned? false r

/-! ### Writing -/

def escapeChar (c : Char) : List Char :=
  if c = '"' then ['\\', '"']
  else if c = '\\' then ['\\', '\\']
  else if c.toNat = 8 then ['\\', 'b']
  else if c.toNat = 12 then ['\\', 'f']
  else if c = '\n' then ['\\', 'n']
  else if c = '\r' then ['\\', 'r']
  else if c = '\t' then ['\\', 't']
  else if c.toNat < 0x20 then ['\\', 'u', '0', '0'] ++ Text.Hex.byte (.ofNat c.toNat)
  else [c]

def writeLiteral (s : String) (rest : List Char) : List Char :=
  '"' :: s.toList.flatMap escapeChar ++ '"' :: rest

/-- Writes a number in front of `rest`, a double with all the digits it has. -/
def writeNumber (n : Number) (rest : List Char) : List Char :=
  match n with
  | .int i => (Text.Decimal.renderInt i).toList ++ rest
  | .double d =>
    let (digits, places) := d.toDecimal
    (if d.negative then ['-'] else []) ++ Text.Decimal.digits digits ++ 'e' ::
      (Text.Decimal.renderInt (-places)).toList ++ rest

end TorrentAdmission.Json
