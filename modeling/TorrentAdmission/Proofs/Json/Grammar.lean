import Mathlib.Data.List.DropRight
import TorrentAdmission.Json.Parser
import TorrentAdmission.Proofs.Json.Rewording

/-!
# The grammar of JSON

Which texts stand for which values, rule by rule, whoever reads them. Rules for parts that are put together in
the same way share one definition. A value has a bound on how many arrays and objects stand inside one another:
`IsValue`.
-/

namespace TorrentAdmission.Json

open Text (isAsciiDigit)

/-! ### Texts made of parts -/

def AreSpaces (s : List Char) : Prop := ∀ c ∈ s, isSpace c = true

/-- A part with white space around it. -/
inductive Padded (P : List Char → Prop) : List Char → Prop where
  | intro {front s behind : List Char} (before : AreSpaces front) (part : P s) (after : AreSpaces behind) :
      Padded P (front ++ s ++ behind)

section
variable {α : Type} (P : α → List Char → Prop)

/-- Parts one after another. -/
inductive Run : List α → List Char → Prop where
  | nil : Run [] []
  | cons {a : α} {r : List α} {s t : List Char} (head : P a s) (tail : Run r t) : Run (a :: r) (s ++ t)

/-- One or more parts with commas between them. -/
inductive Listed : List α → List Char → Prop where
  | one {a : α} {s : List Char} (part : P a s) : Listed [a] s
  | more {a : α} {r : List α} {s t : List Char} (part : P a s) (others : Listed r t) : Listed (a :: r) (s ++ ',' :: t)

/-- Parts between brackets, with commas between them, or white space alone. -/
inductive Bracketed (opening closing : Char) : List α → List Char → Prop where
  | empty {s : List Char} (spaces : AreSpaces s) : Bracketed opening closing [] (opening :: (s ++ [closing]))
  | parts {a : List α} {s : List Char} (listed : Listed P a s) :
      Bracketed opening closing a (opening :: (s ++ [closing]))

end

/-! ### String literals -/

/-- The letters of the short escapes, each with what it stands for. -/
def shortEscapes : List (Char × Char) :=
  [('"', '"'), ('\\', '\\'), ('/', '/'), ('b', '\x08'), ('f', '\x0c'), ('n', '\n'), ('r', '\r'), ('t', '\t')]

/-- The digits of base sixteen with their values. -/
def hexDigits : List (Char × Nat) :=
  [('0', 0), ('1', 1), ('2', 2), ('3', 3), ('4', 4), ('5', 5), ('6', 6), ('7', 7), ('8', 8), ('9', 9), ('a', 10),
    ('b', 11), ('c', 12), ('d', 13), ('e', 14), ('f', 15), ('A', 10), ('B', 11), ('C', 12), ('D', 13), ('E', 14),
    ('F', 15)]

/-- A code unit: a character as it stands, a short escape, or an escape of the code. -/
inductive SpellsUnit : Nat → List Char → Prop where
  | plain {c : Char} (quote : c ≠ '"') (backslash : c ≠ '\\') (printed : ¬ c.toNat < 0x20) : SpellsUnit c.toNat [c]
  | short {e c : Char} (escape : (e, c) ∈ shortEscapes) : SpellsUnit c.toNat ['\\', e]
  | hex {a b c d : Char} {i j k l : Nat} (first : (a, i) ∈ hexDigits) (second : (b, j) ∈ hexDigits)
      (third : (c, k) ∈ hexDigits) (fourth : (d, l) ∈ hexDigits) :
      SpellsUnit (4096 * i + 256 * j + 16 * k + l) ['\\', 'u', a, b, c, d]

/-- A character: its own code unit, or a pair of surrogates. -/
inductive SpellsChar : Char → List Char → Prop where
  | unit {c : Char} {s : List Char} (unit : SpellsUnit c.toNat s) : SpellsChar c s
  | pair {high low : Nat} {s t : List Char} (first : SpellsUnit high s) (second : SpellsUnit low t)
      (isHigh : isHighSurrogate high = true) (isLow : isLowSurrogate low = true) :
      SpellsChar (.ofNat (0x10000 + 1024 * (high - 0xd800) + (low - 0xdc00))) (s ++ t)

/-- A string between quotes. -/
inductive IsLiteral (k : String) : List Char → Prop where
  | intro {body : List Char} (chars : Run SpellsChar k.toList body) : IsLiteral k ('"' :: (body ++ ['"']))

/-! ### Numerals -/

/-- One or more digits. -/
def AreDigits (s : List Char) : Prop := s ≠ [] ∧ ∀ c ∈ s, isAsciiDigit c = true

/-- The whole part of a numeral. No zero stands in front of other digits. -/
def IsWhole (s : List Char) : Prop := AreDigits s ∧ ¬ (s.head? = some '0' ∧ s ≠ ['0'])

/-- The exponent of ten with its sign. -/
inductive IsExponent : Int → List Char → Prop where
  | plain {s : List Char} (digits : AreDigits s) : IsExponent (Nat.ofDigitChars 10 s 0) s
  | plus {s : List Char} (digits : AreDigits s) : IsExponent (Nat.ofDigitChars 10 s 0) ('+' :: s)
  | minus {s : List Char} (digits : AreDigits s) : IsExponent (-(Nat.ofDigitChars 10 s 0)) ('-' :: s)

/-- A whole number with its sign that a 64-bit word can hold. There is no integer for a negative zero. -/
inductive IsInteger : Bool → Nat → Int → Prop where
  | positive {n : Nat} (fits : n < 0x10000000000000000) : IsInteger false n n
  | negative {n : Nat} (nonzero : 0 < n) (fits : n ≤ 0x8000000000000000) : IsInteger true n (-n)

/-- What follows the digits of a numeral: nothing, or an exponent. Without decimal places and exponent it stands for
an integer if there is one. -/
inductive IsNumeralEnd (negative : Bool) (whole places : List Char) : Json → List Char → Prop where
  | integer {i : Int} (none : places = []) (integer : IsInteger negative (Nat.ofDigitChars 10 whole 0) i) :
      IsNumeralEnd negative whole places (.number (.int i)) []
  | beyond (none : places = []) (beyond : ∀ i, ¬ IsInteger negative (Nat.ofDigitChars 10 whole 0) i) :
      IsNumeralEnd negative whole places (double negative whole [] 0) []
  | places (some : places ≠ []) : IsNumeralEnd negative whole places (double negative whole places 0) []
  | exponent {mark : Char} {exponent : Int} {s : List Char} (isMark : mark = 'e' ∨ mark = 'E')
      (power : IsExponent exponent s) :
      IsNumeralEnd negative whole places (double negative whole places exponent) (mark :: s)

/-- A numeral without its sign, perhaps with decimal places. -/
inductive IsUnsigned (negative : Bool) : Json → List Char → Prop where
  | whole {v : Json} {whole s : List Char} (isWhole : IsWhole whole) (ending : IsNumeralEnd negative whole [] v s) :
      IsUnsigned negative v (whole ++ s)
  | places {v : Json} {whole places s : List Char} (isWhole : IsWhole whole) (digits : AreDigits places)
      (ending : IsNumeralEnd negative whole places v s) : IsUnsigned negative v (whole ++ '.' :: (places ++ s))

inductive IsNumeral : Json → List Char → Prop where
  | positive {v : Json} {s : List Char} (unsigned : IsUnsigned false v s) : IsNumeral v s
  | negative {v : Json} {s : List Char} (unsigned : IsUnsigned true v s) : IsNumeral v ('-' :: s)

/-! ### Values -/

inductive IsAtom : Json → List Char → Prop where
  | null : IsAtom .null ['n', 'u', 'l', 'l']
  | yes : IsAtom (.bool true) ['t', 'r', 'u', 'e']
  | no : IsAtom (.bool false) ['f', 'a', 'l', 's', 'e']
  | string {k : String} {s : List Char} (literal : IsLiteral k s) : IsAtom (.string k) s
  | number {n : Number} {s : List Char} (numeral : IsNumeral (.number n) s) : IsAtom (.number n) s

/-- A key, a colon and a value, with white space around key and value. -/
inductive IsMember (P : Json → List Char → Prop) : String × Json → List Char → Prop where
  | intro {k : String} {v : Json} {s t : List Char} (key : Padded (IsLiteral k) s) (value : Padded (P v) t) :
      IsMember P (k, v) (s ++ ':' :: t)

/-- An array or object of such values. -/
inductive IsNest (P : Json → List Char → Prop) : Json → List Char → Prop where
  | array {items : List Json} {s : List Char} (parts : Bracketed (fun v => Padded (P v)) '[' ']' items s) :
      IsNest P (.array items) s
  | object {members : List (String × Json)} {s : List Char} (parts : Bracketed (IsMember P) '\x7b' '\x7d' members s) :
      IsNest P (.object members) s

/-- A value with at most so many arrays and objects inside one another. -/
def IsValue : Nat → Json → List Char → Prop
  | 0, v, s => IsAtom v s
  | levels + 1, v, s => IsAtom v s ∨ IsNest (IsValue levels) v s

/-- A text that stands for a value, with white space around it. -/
def IsText (v : Json) (text : String) : Prop := Padded (IsValue depthLimit v) text.toList

/-! ### White space -/

variable {s t : List Char}

theorem areSpaces_nil : AreSpaces [] := fun _ member => nomatch member

theorem AreSpaces.append (before : AreSpaces s) (after : AreSpaces t) : AreSpaces (s ++ t) :=
  List.forall_mem_append.mpr ⟨before, after⟩

theorem AreSpaces.skip (spaces : AreSpaces s) (t : List Char) : skipSpace (s ++ t) = skipSpace t :=
  List.dropWhile_append_of_pos spaces

theorem skipSpace_cons {c : Char} (printed : isSpace c = false) (r : List Char) : skipSpace (c :: r) = c :: r :=
  List.dropWhile_cons_of_neg (by simp [printed])

theorem skipSpace_skipSpace (s : List Char) : skipSpace (skipSpace s) = skipSpace s := List.dropWhile_idempotent _ s

/-- White space comes off the front of a text. -/
theorem eq_append_skipSpace (s : List Char) : ∃ front, AreSpaces front ∧ s = front ++ skipSpace s :=
  ⟨s.takeWhile isSpace, fun _ member => List.mem_takeWhile_imp member, List.takeWhile_append_dropWhile.symm⟩

theorem Padded.of_part {P : List Char → Prop} (part : P s) : Padded P s := by
  simpa using Padded.intro areSpaces_nil part areSpaces_nil

theorem Padded.exists_part {P : List Char → Prop} (padded : Padded P s) : ∃ t, P t := by
  obtain ⟨-, part, -⟩ := padded
  exact ⟨_, part⟩

theorem Padded.front {P : List Char → Prop} {front : List Char} (before : AreSpaces front) (padded : Padded P s) :
    Padded P (front ++ s) := by
  obtain ⟨spaces, part, after⟩ := padded
  rw [← List.append_assoc, ← List.append_assoc]
  exact .intro (before.append spaces) part after

/-! ### Lists -/

section
variable {α : Type} {P : α → List Char → Prop} {items : List α}

theorem Listed.exists_text (listed : Listed P items s) : ∀ a ∈ items, ∃ t, P a t := by
  induction listed with
  | one part => exact List.forall_mem_cons.mpr ⟨⟨_, part⟩, fun _ member => nomatch member⟩
  | more part _ ih => exact List.forall_mem_cons.mpr ⟨⟨_, part⟩, ih⟩

theorem Bracketed.exists_text {opening closing : Char} (parts : Bracketed P opening closing items s) :
    ∀ a ∈ items, ∃ t, P a t := by
  cases parts with
  | empty => exact fun _ member => nomatch member
  | parts listed => exact listed.exists_text

end

/-! ### Parts of values -/

variable {n : Nat} {v : Json}

theorem IsValue.of_item {items : List Json} (value : IsValue n (.array items) s) :
    ∀ v ∈ items, ∃ m t, IsValue m v t := by
  intro v member
  cases n with
  | zero => cases value
  | succ n =>
    rcases value with ⟨⟨⟩⟩ | nest
    cases nest with
    | array parts =>
      obtain ⟨_, -, part, -⟩ := parts.exists_text v member
      exact ⟨n, _, part⟩

theorem IsValue.of_member {members : List (String × Json)} (value : IsValue n (.object members) s) :
    ∀ m ∈ members, ∃ k t, IsValue k m.2 t := by
  intro m member
  cases n with
  | zero => cases value
  | succ n =>
    rcases value with ⟨⟨⟩⟩ | nest
    cases nest with
    | object parts =>
      obtain ⟨_, -, -, part, -⟩ := parts.exists_text m member
      exact ⟨n, _, part⟩

theorem IsValue.numeral {x : Number} (value : IsValue n (.number x) s) : IsNumeral (.number x) s := by
  have ofAtom (atom : IsAtom (.number x) s) : IsNumeral (.number x) s := by
    cases atom
    assumption
  cases n with
  | zero => exact ofAtom value
  | succ n => exact value.elim ofAtom nofun

theorem IsAtom.isReadable (atom : IsAtom v s) : v.isReadable = true := by
  cases atom <;> rfl

/-- What a text stands for is readable. -/
theorem IsValue.isReadable (value : IsValue n v s) : v.isReadable = true := by
  induction n generalizing v s with
  | zero => exact IsAtom.isReadable value
  | succ n ih =>
    rcases value with atom | nest
    · exact atom.isReadable
    · cases nest with
      | array parts =>
        refine areReadable_iff.mpr fun v member => ?_
        obtain ⟨_, -, part, -⟩ := parts.exists_text v member
        exact ih part
      | object parts =>
        refine areReadableMembers_iff.mpr fun m member => ?_
        obtain ⟨_, -, -, part, -⟩ := parts.exists_text m member
        exact ih part

/-! ### Where parts begin -/

/-- A character with which a value can begin: no white space, no bracket that closes. -/
def BeginsValue (c : Char) : Prop := isSpace c = false ∧ c ≠ ']' ∧ c ≠ '\x7d'

instance (c : Char) : Decidable (BeginsValue c) := inferInstanceAs (Decidable (_ ∧ _))

theorem begins_of_digit {c : Char} (digit : Text.isAsciiDigit c = true) : BeginsValue c := by
  have above : '0' ≤ c := (of_decide_eq_true digit).1
  refine ⟨?_, ?_, ?_⟩
  · by_contra space
    simp only [isSpace, Bool.not_eq_false, Bool.or_eq_true, beq_iff_eq] at space
    rcases space with ((rfl | rfl) | rfl) | rfl <;> exact absurd above (by decide)
  · rintro rfl
    cases digit
  · rintro rfl
    cases digit

theorem AreDigits.begins (digits : AreDigits s) : ∃ c r, s = c :: r ∧ isAsciiDigit c = true := by
  obtain ⟨c, r, rfl⟩ := List.exists_cons_of_ne_nil digits.1
  exact ⟨c, r, rfl, digits.2 c List.mem_cons_self⟩

theorem IsUnsigned.begins {negative : Bool} (unsigned : IsUnsigned negative v s) :
    ∃ c r, s = c :: r ∧ isAsciiDigit c = true := by
  cases unsigned with
  | whole isWhole =>
    obtain ⟨c, r, rfl, digit⟩ := isWhole.1.begins
    exact ⟨c, _, rfl, digit⟩
  | places isWhole =>
    obtain ⟨c, r, rfl, digit⟩ := isWhole.1.begins
    exact ⟨c, _, rfl, digit⟩

theorem IsNumeral.begins (numeral : IsNumeral v s) : ∃ c r, s = c :: r ∧ (c = '-' ∨ isAsciiDigit c = true) := by
  cases numeral with
  | positive unsigned =>
    obtain ⟨c, r, rfl, digit⟩ := unsigned.begins
    exact ⟨c, r, rfl, Or.inr digit⟩
  | negative => exact ⟨_, _, rfl, Or.inl rfl⟩

theorem IsAtom.begins (atom : IsAtom v s) : ∃ c r, s = c :: r ∧ BeginsValue c := by
  cases atom with
  | null => exact ⟨_, _, rfl, by decide⟩
  | yes => exact ⟨_, _, rfl, by decide⟩
  | no => exact ⟨_, _, rfl, by decide⟩
  | string literal =>
    obtain ⟨_⟩ := literal
    exact ⟨_, _, rfl, by decide⟩
  | number numeral =>
    obtain ⟨c, r, rfl, minus | digit⟩ := numeral.begins
    · exact ⟨c, r, rfl, by rw [minus]; decide⟩
    · exact ⟨c, r, rfl, begins_of_digit digit⟩

theorem IsNest.begins {P : Json → List Char → Prop} (nest : IsNest P v s) : ∃ c r, s = c :: r ∧ BeginsValue c := by
  cases nest with
  | array parts => cases parts <;> exact ⟨_, _, rfl, by decide⟩
  | object parts => cases parts <;> exact ⟨_, _, rfl, by decide⟩

theorem IsValue.begins (value : IsValue n v s) : ∃ c r, s = c :: r ∧ BeginsValue c := by
  cases n with
  | zero => exact IsAtom.begins value
  | succ n => exact value.elim IsAtom.begins IsNest.begins

end TorrentAdmission.Json
