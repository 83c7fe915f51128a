import TorrentAdmission.Text.Blank
import TorrentAdmission.Text.Decimal
import TorrentAdmission.Time.Calendar
import TorrentAdmission.Json.Basic

/-!
# Timestamps

An instant in coordinated universal time, to the nanosecond. It is written as a date, a `T`, a time
and a `Z`. A reader takes any offset from universal time, and is lenient about blanks and about the
number of digits.
-/

namespace TorrentAdmission

open Text

/-- `nano` reaches a whole second inside a leap second. -/
structure Timestamp where
  day : Int
  second : Nat
  nano : Nat
  deriving DecidableEq, Repr

namespace Timestamp

/-! ### Writing -/

/-- A year between 0 and 9999 has four digits; any other year has a sign and at least four. -/
def yearChars (year : Int) : List Char :=
  if 0 ≤ year ∧ year ≤ 9999 then Decimal.padded 4 year.toNat
  else (if 0 ≤ year then '+' else '-') :: Decimal.padded 4 year.natAbs

/-- Decimal places of a second: none, three, six or nine of them. -/
def placesChars (nano : Nat) : List Char :=
  if nano = 0 then []
  else if nano % 1000000 = 0 then '.' :: Decimal.padded 3 (nano / 1000000)
  else if nano % 1000 = 0 then '.' :: Decimal.padded 6 (nano / 1000)
  else '.' :: Decimal.padded 9 nano

def chars (t : Timestamp) : List Char :=
  let date := Time.Date.ofDay t.day
  let second := t.second % 60 + t.nano / 1000000000
  yearChars date.year ++ '-' :: Decimal.padded 2 date.month ++ '-' :: Decimal.padded 2 date.day
    ++ 'T' :: Decimal.padded 2 (t.second / 3600) ++ ':' :: Decimal.padded 2 (t.second / 60 % 60)
    ++ ':' :: Decimal.padded 2 second ++ placesChars (t.nano % 1000000000) ++ ['Z']

def render (t : Timestamp) : String :=
  .ofList t.chars

/-! ### Reading -/

def skipBlank (s : List Char) : List Char :=
  s.dropWhile isBlank

/-- One to `most` digits, and what follows them. -/
def number? (most : Nat) (s : List Char) : Option (Nat × List Char) :=
  let run := (s.take most).takeWhile isAsciiDigit
  if run = [] then none else some (Decimal.valueFrom 0 run, s.drop run.length)

def wholeNumber? (s : List Char) : Option (Nat × List Char) :=
  number? s.length s

/-- A year, with a sign and then any number of digits or without a sign and then at most four. -/
def year? (s : List Char) : Option (Int × List Char) :=
  match skipBlank s with
  | '-' :: r => (wholeNumber? r).map fun n => (-(n.1 : Int), n.2)
  | '+' :: r => (wholeNumber? r).map fun n => ((n.1 : Int), n.2)
  | r => (number? 4 r).map fun n => ((n.1 : Int), n.2)

def pair? (s : List Char) : Option (Nat × List Char) :=
  number? 2 (skipBlank s)

def mark? (c : Char) (s : List Char) : Option (List Char) :=
  match skipBlank s with
  | d :: r => if d = c then some r else none
  | [] => none

/-- Decimal places in nanoseconds; digits after the ninth are cut. -/
def places? (s : List Char) : Option (Nat × List Char) :=
  match s with
  | '.' :: r =>
    let run := (r.take 9).takeWhile isAsciiDigit
    if run = [] then none
    else some (Decimal.valueFrom 0 (run ++ List.replicate (9 - run.length) '0'), r.dropWhile isAsciiDigit)
  | r => some (0, r)

/-- Hours and minutes of an offset in seconds; colons and blanks may stand between them. -/
def offsetLength? (s : List Char) : Option (Nat × List Char) :=
  match s with
  | a :: b :: r =>
    if isAsciiDigit a && isAsciiDigit b then
      match r.dropWhile fun c => c == ':' || isBlank c with
      | m :: n :: r =>
        if isAsciiDigit m && isAsciiDigit n && decide (m ≤ '5') then
          some (3600 * Decimal.valueFrom 0 [a, b] + 60 * Decimal.valueFrom 0 [m, n], r)
        else none
      | _ => none
    else none
  | _ => none

/-- The distance of local time from universal time in seconds: a letter `Z`, the word `UTC`, or a
sign with hours and minutes. -/
def offset? (s : List Char) : Option (Int × List Char) :=
  let s := skipBlank s
  if (s.take 3).map lowerAscii = ['u', 't', 'c'] then some (0, s.drop 3)
  else match s with
    | c :: r =>
      if c = 'Z' ∨ c = 'z' then some (0, r)
      else if c = '+' then (offsetLength? r).map fun n => ((n.1 : Int), n.2)
      else if c = '-' ∨ c = '\u2212' then (offsetLength? r).map fun n => (-(n.1 : Int), n.2)
      else none
    | [] => none

def ofChars? (s : List Char) : Option Timestamp := do
  let (year, s) ← year? s
  let (month, s) ← pair? (← mark? '-' s)
  let (day, s) ← pair? (← mark? '-' s)
  let s ← match s with
    | c :: r => if c = 'T' ∨ c = 't' ∨ c = ' ' then some r else none
    | [] => none
  let (hour, s) ← pair? s
  let (minute, s) ← pair? (← mark? ':' s)
  let (second, s) ← pair? (← mark? ':' s)
  let (nano, s) ← places? s
  let (offset, s) ← offset? s
  let date : Time.Date := ⟨year, month, day⟩
  if skipBlank s ≠ [] ∨ !date.isValid ∨ 23 < hour ∨ 59 < minute ∨ 60 < second
    ∨ 86400 ≤ offset.natAbs then none
  let instant := date.toDay * 86400 + 3600 * hour + 60 * minute + min second 59 - offset
  let stamp : Timestamp :=
    ⟨instant / 86400, (instant % 86400).toNat, if second = 60 then nano + 1000000000 else nano⟩
  let year := (Time.Date.ofDay stamp.day).year
  if Time.yearRange.1 ≤ year ∧ year ≤ Time.yearRange.2 then some stamp else none

def parse? (s : String) : Option Timestamp :=
  ofChars? s.toList

def toJson (t : Timestamp) : Json := .string t.render

def ofJson? (v : Json) : Option Timestamp :=
  v.text?.bind parse?

end Timestamp

end TorrentAdmission
