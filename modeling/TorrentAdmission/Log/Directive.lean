import TorrentAdmission.Log.Notice
import TorrentAdmission.Text.Alphanumeric
import TorrentAdmission.Text.Decimal
import TorrentAdmission.Text.Pattern.Reader

/-!
# Directives of a log filter

A directive is written `target[span{field=value}]=level`, and every part of it may be missing. It says
down to which level something is shown: notices of a part of the program, notices with a field, or
what happens inside a span, which may be restricted to spans whose field has a certain value.
-/

namespace TorrentAdmission

/-- What a directive asks of the value of a field. -/
inductive ValueTest where
  | word (n : Nat)
  /-- A truth value, a negative number or a fraction, which no field has. -/
  | other
  /-- The value, in its own words, is matched up to its end. -/
  | pattern (text : List Char) (p : Text.Pattern)
  deriving DecidableEq, Repr

namespace ValueTest

/-- A text that reads as a fraction, an exponent or a name of floating point. -/
def isFloating (s : List Char) : Bool :=
  let unsigned := match s with
    | '+' :: r | '-' :: r => r
    | r => r
  let named := String.ofList (unsigned.map Text.lowerAscii)
  let whole := unsigned.takeWhile Text.isAsciiDigit
  let rest := unsigned.dropWhile Text.isAsciiDigit
  let (places, rest) := match rest with
    | '.' :: r => (r.takeWhile Text.isAsciiDigit, r.dropWhile Text.isAsciiDigit)
    | r => ([], r)
  let exponent := match rest with
    | [] => true
    | 'e' :: '+' :: r | 'e' :: '-' :: r | 'E' :: '+' :: r | 'E' :: '-' :: r | 'e' :: r | 'E' :: r =>
      (Text.Decimal.natural? r).isSome
    | _ => false
  named == "inf" || named == "infinity" || named == "nan" ||
    (!(whole ++ places).isEmpty && exponent)

def parse? (s : List Char) : Option ValueTest :=
  if String.ofList s = "true" ∨ String.ofList s = "false" then some .other
  else
    match Text.Decimal.word? s with
    | some n => some (.word n)
    | none =>
      if isFloating s then some .other
      else (Text.Pattern.parse? s).map (.pattern s)

def accepts : ValueTest → FieldValue → Bool
  | .word n, .count k => n == k
  | .pattern _ p, .text s => p.endsText s.toList
  | .pattern _ p, .shown s => p.endsText s.toList
  | _, _ => false

def alike : ValueTest → ValueTest → Bool
  | .word n, .word k => n == k
  | .other, .other => true
  | .pattern s _, .pattern t _ => s == t
  | _, _ => false

end ValueTest

/-- A field that something must have, with a value if one is asked for. -/
structure FieldTest where
  name : String
  value : Option ValueTest := none
  deriving DecidableEq, Repr

/-- Reads a name, or a name and a value with `=` between them. What follows another `=` does not
count. -/
def FieldTest.parse? (s : List Char) : Option FieldTest :=
  let name := String.ofList (s.takeWhile (· != '='))
  match s.dropWhile (· != '=') with
  | [] => some { name }
  | _ :: r => (ValueTest.parse? (r.takeWhile (· != '='))).map fun v => { name, value := some v }

structure Directive where
  /-- How the targets start that the directive is for. -/
  target : Option String := none
  span : Option String := none
  field : Option FieldTest := none
  /-- The rank of the least urgent level shown, or 0. -/
  rank : Nat
  deriving DecidableEq, Repr

namespace Directive

/-- The rank of a level, or of no level at all, as a person writes it. -/
def rank? (s : List Char) : Option Nat :=
  match String.ofList (s.map Text.lowerAscii) with
  | "off" => some 0
  | "error" => some 1
  | "warn" => some 2
  | "info" => some 3
  | "debug" => some 4
  | "trace" => some 5
  | _ => (Text.Decimal.word? s).filter (· ≤ 5)

def everything : Nat := Level.trace.rank

/-! ### Reading

The parts of a directive are told apart in its text without the blanks around it. The places found
are then counted from the start of the whole text, in bytes. -/

def placed (n : Nat) : List Char → List (Nat × Char)
  | [] => []
  | c :: r => (n, c) :: placed (n + c.utf8Size) r

def between (s : List Char) (start stop : Nat) : List Char :=
  ((placed 0 s).filter fun p => decide (start ≤ p.1 ∧ p.1 < stop)).map (·.2)

def behind (s : List Char) (start : Nat) : List Char :=
  ((placed 0 s).filter fun p => decide (start ≤ p.1)).map (·.2)

/-- Where the parts of a directive are: the end of the target, the start and the end of the span and
of the field, the start of the level. -/
structure Outline where
  target : Option Nat := none
  span : Option (Nat × Nat) := none
  field : Option (Nat × Nat) := none
  level : Option Nat := none
  deriving DecidableEq, Repr

namespace Outline

def tail? (o : Outline) : List (Nat × Char) → Option Outline
  | [] => some o
  | (i, '=') :: _ => some { o with level := some (i + 1) }
  | _ => none

/-- Completes an outline behind an opening bracket, which ends at the place `start`. -/
def brackets? (o : Outline) (start : Nat) (s : List (Nat × Char)) : Option Outline :=
  match s.dropWhile fun p => p.2 != ']' && p.2 != '\x7b' with
  | (i, ']') :: r => tail? { o with span := some (start, i) } r
  | (i, '\x7b') :: r =>
    let o := if i = start then o else { o with span := some (start, i) }
    match r.dropWhile fun p => p.2 != '\x7d' with
    | (j, _) :: (_, ']') :: r => if j = i + 1 then none else tail? { o with field := some (i + 1, j) } r
    | _ => none
  | _ => none

def isStart (c : Char) : Bool :=
  c == '-' || c == ':' || c == '_' || Text.isAlphanumeric c

def ofPlaced? : List (Nat × Char) → Option Outline
  | [] => none
  | (i, c) :: r =>
    if c = '[' then brackets? {} (i + 1) r
    else if !isStart c then none
    else
      match r.dropWhile fun p => p.2 != '=' && p.2 != '[' with
      | (j, '=') :: _ => some { target := some j, level := some (j + 1) }
      | (j, _) :: r => brackets? { target := some j } (j + 1) r
      | [] => some {}

end Outline

/-- A level alone, or a target alone, of which everything is shown. -/
def ofWord (s : List Char) : Directive :=
  match rank? s with
  | some rank => { rank }
  | none => { target := some (.ofList s), rank := everything }

def levelRank? (s : List Char) : Option Nat :=
  if s = [] then some everything else rank? s

def ofOutline? (s : List Char) (o : Outline) : Option Directive := do
  let field ← match o.field with
    | some (i, j) => (FieldTest.parse? (between s i j)).map some
    | none => some none
  let rank ← match o.level with
    | some i => levelRank? (behind s i)
    | none => some everything
  return { target := o.target.map fun j => .ofList (between s 0 j)
           span := o.span.map fun p => .ofList (between s p.1 p.2)
           field, rank }

def parse? (s : List Char) : Option Directive := do
  let o ← Outline.ofPlaced? (placed 0 (Text.trimChars s))
  if o = {} then return ofWord s else ofOutline? s o

/-! ### Meaning -/

def concernsSpans (d : Directive) : Bool := d.span.isSome || d.field.isSome

/-- The directive is about notices and spans for themselves. -/
def concernsSingly (d : Directive) : Bool := d.span.isNone && d.field.all fun f => f.value.isNone

/-- Whether a span is shown can depend on the values of its fields. -/
def asksForValue (d : Directive) : Bool := d.field.any fun f => f.value.isSome

def sameSubject (d e : Directive) : Bool :=
  d.target == e.target && d.span == e.span &&
    match d.field, e.field with
    | none, none => true
    | some f, some g => f.name == g.name &&
      (match f.value, g.value with
        | none, none => true
        | some v, some w => v.alike w
        | _, _ => false)
    | _, _ => false

def covers (d : Directive) (reporter : Reporter) : Bool :=
  d.target.all fun t => t.toList.isPrefixOf reporter.target.toList

def isForTopic (d : Directive) (t : Topic) : Bool :=
  d.covers t.reporter && d.field.all fun f => t.fieldNames.contains f.name

def isForSpan (d : Directive) : Bool :=
  d.covers Span.reporter && d.span.all (· == Span.name) &&
    d.field.all fun f => Span.fieldNames.contains f.name

def accepts (d : Directive) (fields : Fields) : Bool :=
  d.field.all fun f => f.value.all fun v => fields.any fun g => g.1 == f.name && v.accepts g.2

/-- Among directives for one target the one with the longer name for it counts more, then one that
names a field, then the one with the later name. -/
def yieldsTo (d e : Directive) : Bool :=
  let weight (d : Directive) : Nat := d.target.elim 0 fun t => t.length + 1
  if weight d = weight e then
    match d.field, e.field with
    | none, _ => true
    | some _, none => false
    | some f, some g => decide (f.name ≤ g.name)
  else decide (weight d < weight e)

end Directive

end TorrentAdmission
