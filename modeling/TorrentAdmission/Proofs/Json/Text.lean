import Mathlib.Data.List.TakeDrop
import TorrentAdmission.Proofs.Json.Grammar
import TorrentAdmission.Proofs.Text.Decimal

/-!
# String literals and numerals of JSON

They are read as the grammar has them, and written so that the grammar has them. A literal ends with its quote:
`literal?_eq_some_iff`. A numeral has no such end, so what follows it must not go on with it: `numeral?_eq_some`,
`IsNumeral.numeral?`.
-/

namespace TorrentAdmission.Json

open Text (isAsciiDigit)

variable {s t rest : List Char} {units : List Nat} {chars : List Char} {unit : Nat}

/-! ### Code units -/

/-- The code units that come of a literal which begins with one more unit. -/
def unitAhead (unit : Nat) (read : Option (List Nat × List Char)) : Option (List Nat × List Char) :=
  read.map fun u => (unit :: u.1, u.2)

theorem literalUnits_short {e : Char} {unit : Nat} (escape : shortEscape? e = some unit) (s : List Char) :
    literalUnits ('\\' :: e :: s) = unitAhead unit (literalUnits s) := by
  have other : e ≠ 'u' := by
    rintro rfl
    cases escape
  rw [literalUnits.eq_4 _ _ (by simp [other]), escape]
  cases literalUnits s <;> rfl

theorem literalUnits_hex {a b c d : Char} {unit : Nat} (escape : hexUnit? a b c d = some unit) (s : List Char) :
    literalUnits ('\\' :: 'u' :: a :: b :: c :: d :: s) = unitAhead unit (literalUnits s) := by
  rw [literalUnits, escape]
  cases literalUnits s <;> rfl

theorem literalUnits_plain {c : Char} (quote : c ≠ '"') (backslash : c ≠ '\\') (printed : ¬ c.toNat < 0x20)
    (s : List Char) : literalUnits (c :: s) = unitAhead c.toNat (literalUnits s) := by
  rw [literalUnits.eq_5 _ _ (by simp [quote]) (by simp [backslash]) (by simp [backslash]),
    if_neg (not_or.mpr ⟨printed, backslash⟩)]
  cases literalUnits s <;> rfl

theorem shortEscape?_eq_some_iff {e : Char} :
    shortEscape? e = some unit ↔ ∃ c, (e, c) ∈ shortEscapes ∧ unit = c.toNat := by
  constructor
  · intro escape
    unfold shortEscape? at escape
    split at escape
    · rename_i own
      cases escape
      exact ⟨e, by rcases own with rfl | rfl | rfl <;> decide, rfl⟩
    · iterate 5
        split at escape
        · rename_i letter
          cases escape
          subst letter
          simp [shortEscapes]
      cases escape
  · rintro ⟨c, escape, rfl⟩
    simp only [shortEscapes, List.mem_cons, List.not_mem_nil, or_false, Prod.mk.injEq] at escape
    rcases escape with ⟨rfl, rfl⟩ | ⟨rfl, rfl⟩ | ⟨rfl, rfl⟩ | ⟨rfl, rfl⟩ | ⟨rfl, rfl⟩ | ⟨rfl, rfl⟩ | ⟨rfl, rfl⟩ |
      ⟨rfl, rfl⟩ <;> rfl

theorem hexDigits_lt {c : Char} {n : Nat} (digit : (c, n) ∈ hexDigits) : n < 16 := by
  have all : ∀ d ∈ hexDigits, d.2 < 16 := by decide
  exact all _ digit

theorem mem_hexDigits {c : Char} {n : Nat} : (c, n) ∈ hexDigits ↔ ∃ v, Text.Hex.value? c = some v ∧ v.val = n := by
  constructor
  · intro digit
    have all : ∀ d ∈ hexDigits, (Text.Hex.value? d.1).map Fin.val = some d.2 := by decide
    exact Option.map_eq_some_iff.mp (all _ digit)
  · rintro ⟨v, read, rfl⟩
    have ascii : c.toNat < 128 := by
      unfold Text.Hex.value? at read
      iterate 3
        split at read
        · rename_i range
          exact Nat.lt_of_le_of_lt range.2 (by decide)
      cases read
    have all : ∀ k : Fin 128, ∀ v ∈ Text.Hex.value? (Char.ofNat k.val), (Char.ofNat k.val, v.val) ∈ hexDigits := by
      decide +kernel
    have here := all ⟨c.toNat, ascii⟩ v
    rw [Char.ofNat_toNat] at here
    exact here read

theorem hexUnit?_eq_some_iff {a b c d : Char} : hexUnit? a b c d = some unit ↔ ∃ i j k l, (a, i) ∈ hexDigits ∧
    (b, j) ∈ hexDigits ∧ (c, k) ∈ hexDigits ∧ (d, l) ∈ hexDigits ∧ unit = 4096 * i + 256 * j + 16 * k + l := by
  simp only [hexUnit?, mem_hexDigits, Option.bind_eq_bind, Option.bind_eq_some_iff, Option.pure_def, Option.some_inj]
  constructor
  · rintro ⟨i, first, j, second, k, third, l, fourth, rfl⟩
    exact ⟨_, _, _, _, ⟨i, first, rfl⟩, ⟨j, second, rfl⟩, ⟨k, third, rfl⟩, ⟨l, fourth, rfl⟩, rfl⟩
  · rintro ⟨_, _, _, _, ⟨i, first, rfl⟩, ⟨j, second, rfl⟩, ⟨k, third, rfl⟩, ⟨l, fourth, rfl⟩, rfl⟩
    exact ⟨i, first, j, second, k, third, l, fourth, rfl⟩

theorem SpellsUnit.of_shortEscape? {e : Char} (escape : shortEscape? e = some unit) : SpellsUnit unit ['\\', e] := by
  obtain ⟨c, letter, rfl⟩ := shortEscape?_eq_some_iff.mp escape
  exact .short letter

theorem SpellsUnit.of_hexUnit? {a b c d : Char} (escape : hexUnit? a b c d = some unit) :
    SpellsUnit unit ['\\', 'u', a, b, c, d] := by
  obtain ⟨i, j, k, l, first, second, third, fourth, rfl⟩ := hexUnit?_eq_some_iff.mp escape
  exact .hex first second third fourth

theorem SpellsUnit.literalUnits (spells : SpellsUnit unit s) (t : List Char) :
    literalUnits (s ++ t) = unitAhead unit (literalUnits t) := by
  cases spells with
  | plain quote backslash printed => exact literalUnits_plain quote backslash printed t
  | short escape => exact literalUnits_short (shortEscape?_eq_some_iff.mpr ⟨_, escape, rfl⟩) t
  | hex first second third fourth =>
    exact literalUnits_hex (hexUnit?_eq_some_iff.mpr ⟨_, _, _, _, first, second, third, fourth, rfl⟩) t

theorem literalUnits_of_run (spells : Run SpellsUnit units s) (rest : List Char) :
    literalUnits (s ++ '"' :: rest) = some (units, rest) := by
  induction spells with
  | nil => rfl
  | cons head _ ih =>
    rw [List.append_assoc, head.literalUnits, ih]
    rfl

/-- One code unit in front of what is read as the grammar has it. -/
theorem run_ahead (spells : SpellsUnit unit s)
    (others : ∀ {units rest}, literalUnits t = some (units, rest) →
      ∃ body, Run SpellsUnit units body ∧ t = body ++ '"' :: rest)
    (read : ((literalUnits t).bind fun u => some (unit :: u.1, u.2)) = some (units, rest)) :
    ∃ body, Run SpellsUnit units body ∧ s ++ t = body ++ '"' :: rest := by
  obtain ⟨⟨units, rest⟩, found, same⟩ := Option.bind_eq_some_iff.mp read
  cases same
  obtain ⟨body, run, rfl⟩ := others found
  exact ⟨s ++ body, .cons spells run, (List.append_assoc ..).symm⟩

theorem run_of_literalUnits (read : literalUnits s = some (units, rest)) :
    ∃ body, Run SpellsUnit units body ∧ s = body ++ '"' :: rest := by
  fun_induction literalUnits s generalizing units rest with
  | case1 => cases read
  | case2 r =>
    cases read
    exact ⟨[], .nil, rfl⟩
  | case3 a b c d r ih =>
    obtain ⟨unit, escape, read⟩ := Option.bind_eq_some_iff.mp read
    exact run_ahead (.of_hexUnit? escape) ih read
  | case4 e r other ih =>
    obtain ⟨unit, escape, read⟩ := Option.bind_eq_some_iff.mp read
    exact run_ahead (.of_shortEscape? escape) ih read
  | case5 => cases read
  | case6 c r quote _ _ printed ih =>
    obtain ⟨printed, backslash⟩ := not_or.mp printed
    exact run_ahead (.plain quote backslash printed) ih read

/-! ### Characters -/

theorem joinUnits_cons {n : Nat} (high : isHighSurrogate n = false) (low : isLowSurrogate n = false) (r : List Nat) :
    joinUnits (n :: r) = (joinUnits r).map (Char.ofNat n :: ·) := by
  cases r with
  | nil => simp [joinUnits, high, low]
  | cons l r => simp [joinUnits, high, low]

theorem not_surrogate (c : Char) : isHighSurrogate c.toNat = false ∧ isLowSurrogate c.toNat = false := by
  have valid : c.toNat < 0xd800 ∨ 0xdfff < c.toNat := c.valid.imp_right And.left
  simp only [isHighSurrogate, isLowSurrogate, decide_eq_false_iff_not]
  omega

/-- A code unit that is no surrogate is that of a character. -/
theorem SpellsUnit.char (spells : SpellsUnit unit s) (high : isHighSurrogate unit = false)
    (low : isLowSurrogate unit = false) : SpellsChar (.ofNat unit) s := by
  have below : unit < 0x110000 := by
    cases spells with
    | @plain c => exact c.valid.elim (fun low => Nat.lt_trans low (by decide)) And.right
    | @short _ c => exact c.valid.elim (fun low => Nat.lt_trans low (by decide)) And.right
    | hex first second third fourth =>
      have := hexDigits_lt first
      have := hexDigits_lt second
      have := hexDigits_lt third
      have := hexDigits_lt fourth
      omega
  have valid : unit.isValidChar := by
    simp only [isHighSurrogate, isLowSurrogate, decide_eq_false_iff_not] at high low
    exact (Nat.lt_or_ge unit 0xd800).imp_right fun above => by omega
  rw [Char.ofNat, dif_pos valid]
  exact .unit spells

theorem chars_of_joinUnits (spells : Run SpellsUnit units s) (joined : joinUnits units = some chars) :
    Run SpellsChar chars s := by
  fun_induction joinUnits units generalizing chars s with
  | case1 =>
    cases joined
    cases spells
    exact .nil
  | case2 h l r isHigh isLow ih =>
    obtain ⟨tail, others, rfl⟩ := Option.map_eq_some_iff.mp joined
    obtain _ | ⟨first, _ | ⟨second, run⟩⟩ := spells
    rw [← List.append_assoc]
    exact .cons (.pair first second isHigh isLow) (ih run others)
  | case3 => cases joined
  | case4 => cases joined
  | case5 h l r high low ih =>
    obtain ⟨tail, others, rfl⟩ := Option.map_eq_some_iff.mp joined
    obtain _ | ⟨first, run⟩ := spells
    exact .cons (first.char (Bool.eq_false_iff.mpr high) (Bool.eq_false_iff.mpr low)) (ih run others)
  | case6 => cases joined
  | case7 n alone =>
    cases joined
    obtain ⟨high, low⟩ := Bool.or_eq_false_iff.mp (Bool.eq_false_iff.mpr alone)
    obtain _ | ⟨first, ⟨⟩⟩ := spells
    exact .cons (first.char high low) .nil

theorem joinUnits_of_chars (spells : Run SpellsChar chars s) :
    ∃ units, Run SpellsUnit units s ∧ joinUnits units = some chars := by
  induction spells with
  | nil => exact ⟨[], .nil, rfl⟩
  | cons head _ ih =>
    obtain ⟨units, run, joined⟩ := ih
    cases head with
    | unit unit =>
      obtain ⟨high, low⟩ := not_surrogate _
      refine ⟨_, .cons unit run, ?_⟩
      rw [joinUnits_cons high low, joined, Option.map_some, Char.ofNat_toNat]
    | pair first second isHigh isLow =>
      rw [List.append_assoc]
      refine ⟨_, .cons first (.cons second run), ?_⟩
      simp [joinUnits, isHigh, isLow, joined]

/-! ### String literals -/

/-- A literal after its opening quote is read if and only if it spells the string. -/
theorem literal?_eq_some_iff {k : String} :
    literal? s = some (some k, rest) ↔ ∃ body, Run SpellsChar k.toList body ∧ s = body ++ '"' :: rest := by
  constructor
  · intro read
    obtain ⟨⟨units, r⟩, found, same⟩ := Option.map_eq_some_iff.mp read
    obtain ⟨text, rfl⟩ := Prod.mk.inj same
    obtain ⟨chars, joined, rfl⟩ := Option.map_eq_some_iff.mp text
    obtain ⟨body, spells, rfl⟩ := run_of_literalUnits found
    rw [String.toList_ofList]
    exact ⟨body, chars_of_joinUnits spells joined, rfl⟩
  · rintro ⟨body, spells, rfl⟩
    obtain ⟨units, run, joined⟩ := joinUnits_of_chars spells
    rw [literal?, literalUnits_of_run run, Option.map_some, joined, Option.map_some, String.ofList_toList]

theorem hexUnit?_byte {c : Char} (below : c.toNat < 0x20) :
    ∃ h l, Text.Hex.byte (.ofNat c.toNat) = [h, l] ∧ hexUnit? '0' '0' h l = some c.toNat := by
  refine ⟨_, _, rfl, ?_⟩
  have zero : Text.Hex.value? '0' = some 0 := by decide
  have byte : (UInt8.ofNat c.toNat).toNat = c.toNat := by
    rw [UInt8.toNat_ofNat']
    omega
  simp only [hexUnit?, zero, Text.Hex.value?_digit, Option.bind_eq_bind, Option.bind_some, Option.pure_def, byte]
  have nought : (0 : Fin 16).val = 0 := rfl
  congr 1
  omega

/-- A character is written as a short escape, as an escape of its code, or as it stands. -/
theorem spellsUnit_escapeChar (c : Char) : SpellsUnit c.toNat (escapeChar c) := by
  unfold escapeChar
  iterate 7
    split
    · rename_i same
      exact .of_shortEscape? (by rw [same]; rfl)
  split
  · rename_i below
    obtain ⟨h, l, written, read⟩ := hexUnit?_byte below
    rw [written]
    exact .of_hexUnit? read
  · rename_i quote backslash _ _ _ _ _ printed
    exact .plain quote backslash printed

theorem run_escaped (s : List Char) : Run SpellsChar s (s.flatMap escapeChar) := by
  induction s with
  | nil => exact .nil
  | cons c r ih => exact .cons (.unit (spellsUnit_escapeChar c)) ih

/-- A literal after its opening quote. -/
theorem literal?_escaped (s : String) (rest : List Char) :
    literal? (s.toList.flatMap escapeChar ++ '"' :: rest) = some (some s, rest) :=
  literal?_eq_some_iff.mpr ⟨_, run_escaped s.toList, rfl⟩

theorem isLiteral_writeLiteral (s : String) : IsLiteral s (writeLiteral s []) := .intro (run_escaped s.toList)

/-! ### Digits -/

/-- What does not go on with a numeral that it follows. -/
def EndsNumeral (s : List Char) : Prop :=
  ∀ c ∈ s.head?, isAsciiDigit c = false ∧ c ≠ '.' ∧ c ≠ 'e' ∧ c ≠ 'E'

theorem endsNumeral_nil : EndsNumeral [] := fun _ member => nomatch member

theorem endsNumeral_comma (r : List Char) : EndsNumeral (',' :: r) := by
  rintro c ⟨⟩
  decide

theorem endsNumeral_bracket (r : List Char) : EndsNumeral (']' :: r) := by
  rintro c ⟨⟩
  decide

theorem endsNumeral_brace (r : List Char) : EndsNumeral ('\x7d' :: r) := by
  rintro c ⟨⟩
  decide

def StopsDigits (s : List Char) : Prop := ∀ c ∈ s.head?, isAsciiDigit c = false

theorem EndsNumeral.stopsDigits (ends : EndsNumeral s) : StopsDigits s := fun c member => (ends c member).1

theorem stopsDigits_cons {c : Char} (other : isAsciiDigit c = false) (s : List Char) : StopsDigits (c :: s) := by
  rintro _ ⟨⟩
  exact other

theorem AreDigits.digitRun? (digits : AreDigits t) (stops : StopsDigits rest) :
    digitRun? (t ++ rest) = some (t, rest) := by
  have stop : rest.takeWhile isAsciiDigit = [] ∧ rest.dropWhile isAsciiDigit = rest := by
    cases rest with
    | nil => exact ⟨rfl, rfl⟩
    | cons c r =>
      have other : ¬ isAsciiDigit c = true := by simp [stops c rfl]
      exact ⟨List.takeWhile_cons_of_neg other, List.dropWhile_cons_of_neg other⟩
  rw [Json.digitRun?, List.span_eq_takeWhile_dropWhile, List.takeWhile_append_of_pos digits.2,
    List.dropWhile_append_of_pos digits.2, stop.1, stop.2, List.append_nil]
  split
  · rename_i none
    cases digits.1 (Prod.mk.inj none).1
  · rfl

theorem digitRun?_eq_some (read : digitRun? s = some (t, rest)) : AreDigits t ∧ s = t ++ rest := by
  rw [digitRun?, List.span_eq_takeWhile_dropWhile] at read
  split at read
  · cases read
  · rename_i some
    obtain ⟨rfl, rfl⟩ := Prod.mk.inj (Option.some.inj read)
    refine ⟨⟨fun none => some _ (Prod.ext none rfl), fun c member => ?_⟩, List.takeWhile_append_dropWhile.symm⟩
    exact List.mem_takeWhile_imp member

/-! ### Numerals -/

theorem exponent?_eq_some {n : Int} (read : exponent? s = some (n, rest)) : ∃ t, IsExponent n t ∧ s = t ++ rest := by
  unfold exponent? at read
  split at read
  all_goals
    obtain ⟨⟨t, r⟩, found, same⟩ := Option.map_eq_some_iff.mp read
    cases same
    obtain ⟨digits, rfl⟩ := digitRun?_eq_some found
    rw [Text.Decimal.valueFrom_eq_ofDigitChars]
  · exact ⟨_, .minus digits, rfl⟩
  · exact ⟨_, .plus digits, rfl⟩
  · exact ⟨_, .plain digits, rfl⟩

theorem IsExponent.exponent? {n : Int} (exponent : IsExponent n t) (stops : StopsDigits rest) :
    exponent? (t ++ rest) = some (n, rest) := by
  cases exponent with
  | plus digits =>
    rw [List.cons_append, Json.exponent?, digits.digitRun? stops, Option.map_some,
      Text.Decimal.valueFrom_eq_ofDigitChars]
  | minus digits =>
    rw [List.cons_append, Json.exponent?, digits.digitRun? stops, Option.map_some,
      Text.Decimal.valueFrom_eq_ofDigitChars]
  | plain digits =>
    obtain ⟨c, r, rfl, digit⟩ := digits.begins
    have noSign : ∀ {sign : Char}, isAsciiDigit sign = false → ∀ u, c :: r ++ rest = sign :: u → False := by
      intro sign other u same
      cases (List.cons.inj same).1
      exact Bool.noConfusion (digit.symm.trans other)
    rw [Json.exponent?.eq_3 _ (noSign rfl) (noSign rfl), digits.digitRun? stops, Option.map_some,
      Text.Decimal.valueFrom_eq_ofDigitChars]

variable {negative : Bool} {whole places : List Char} {v : Json}

theorem wholeNumber_of_integer {i : Int} (integer : IsInteger negative (Nat.ofDigitChars 10 whole 0) i) :
    wholeNumber negative whole = .number (.int i) := by
  unfold wholeNumber
  rw [Text.Decimal.valueFrom_eq_ofDigitChars]
  cases integer with
  | positive fits =>
    have word : Nat.ofDigitChars 10 whole 0 ≤ Text.Decimal.wordMax := Nat.le_sub_one_of_lt fits
    simp only [Bool.false_eq_true, if_false, if_pos word]
  | negative nonzero fits => simp only [if_true, nonzero, fits, and_self]

theorem wholeNumber_of_beyond (beyond : ∀ i, ¬ IsInteger negative (Nat.ofDigitChars 10 whole 0) i) :
    wholeNumber negative whole = double negative whole [] 0 := by
  unfold wholeNumber
  rw [Text.Decimal.valueFrom_eq_ofDigitChars]
  cases negative with
  | false =>
    have great : ¬ Nat.ofDigitChars 10 whole 0 ≤ Text.Decimal.wordMax := fun word =>
      beyond _ (.positive (Nat.lt_of_le_sub_one (by decide) word))
    simp only [Bool.false_eq_true, if_false, if_neg great]
  | true =>
    have great : ¬ (0 < Nat.ofDigitChars 10 whole 0 ∧ Nat.ofDigitChars 10 whole 0 ≤ 0x8000000000000000) := fun word =>
      beyond _ (.negative word.1 word.2)
    simp only [if_true, if_neg great]

/-- A numeral of digits alone stands for what is read. -/
theorem isNumeralEnd_wholeNumber (negative : Bool) (whole : List Char) :
    IsNumeralEnd negative whole [] (wholeNumber negative whole) [] := by
  by_cases some : ∃ i, IsInteger negative (Nat.ofDigitChars 10 whole 0) i
  · obtain ⟨i, integer⟩ := some
    rw [wholeNumber_of_integer integer]
    exact .integer rfl integer
  · have beyond := not_exists.mp some
    rw [wholeNumber_of_beyond beyond]
    exact .beyond rfl beyond

theorem numeralEnd?_eq_some (read : numeralEnd? negative whole places s = some (v, rest)) :
    ∃ t, IsNumeralEnd negative whole places v t ∧ s = t ++ rest := by
  unfold numeralEnd? at read
  split at read
  · obtain ⟨⟨n, r⟩, found, same⟩ := Option.map_eq_some_iff.mp read
    cases same
    obtain ⟨t, exponent, rfl⟩ := exponent?_eq_some found
    exact ⟨_, .exponent (Or.inl rfl) exponent, rfl⟩
  · obtain ⟨⟨n, r⟩, found, same⟩ := Option.map_eq_some_iff.mp read
    cases same
    obtain ⟨t, exponent, rfl⟩ := exponent?_eq_some found
    exact ⟨_, .exponent (Or.inr rfl) exponent, rfl⟩
  · split at read
    · rename_i none
      subst none
      cases read
      exact ⟨[], isNumeralEnd_wholeNumber negative whole, rfl⟩
    · rename_i some
      cases read
      exact ⟨[], .places some, rfl⟩

theorem IsNumeralEnd.numeralEnd? (ending : IsNumeralEnd negative whole places v t) (ends : EndsNumeral rest) :
    numeralEnd? negative whole places (t ++ rest) = some (v, rest) := by
  have noMark : ∀ {mark : Char}, mark = 'e' ∨ mark = 'E' → ∀ u, rest = mark :: u → False := by
    rintro _ isMark u rfl
    obtain ⟨-, -, small, capital⟩ := ends _ rfl
    exact isMark.elim small capital
  have plain := numeralEnd?.eq_3 negative whole places rest (noMark (Or.inl rfl)) (noMark (Or.inr rfl))
  cases ending with
  | integer none integer => rw [List.nil_append, plain, if_pos none, wholeNumber_of_integer integer]
  | beyond none beyond => rw [List.nil_append, plain, if_pos none, wholeNumber_of_beyond beyond]
  | places some => rw [List.nil_append, plain, if_neg some]
  | exponent isMark power =>
    have read := power.exponent? ends.stopsDigits
    rcases isMark with rfl | rfl
    · rw [List.cons_append, Json.numeralEnd?, read, Option.map_some]
    · rw [List.cons_append, Json.numeralEnd?, read, Option.map_some]

theorem unsigned?_eq_some (read : unsigned? negative s = some (v, rest)) :
    ∃ t, IsUnsigned negative v t ∧ s = t ++ rest := by
  obtain ⟨⟨whole, r⟩, found, behind⟩ := Option.bind_eq_some_iff.mp read
  obtain ⟨digits, rfl⟩ := digitRun?_eq_some found
  dsimp only at behind
  split at behind
  · cases behind
  · rename_i plain
    have isWhole : IsWhole whole := ⟨digits, plain⟩
    split at behind
    · obtain ⟨⟨places, r⟩, found, ending⟩ := Option.bind_eq_some_iff.mp behind
      obtain ⟨digits, rfl⟩ := digitRun?_eq_some found
      obtain ⟨t, ending, rfl⟩ := numeralEnd?_eq_some ending
      exact ⟨_, .places isWhole digits ending, by simp⟩
    · obtain ⟨t, ending, rfl⟩ := numeralEnd?_eq_some behind
      exact ⟨_, .whole isWhole ending, by simp⟩

theorem IsNumeralEnd.stopsDigits (ending : IsNumeralEnd negative whole places v t) (ends : EndsNumeral rest) :
    StopsDigits (t ++ rest) := by
  cases ending with
  | exponent isMark => rcases isMark with rfl | rfl <;> exact stopsDigits_cons rfl _
  | _ => exact ends.stopsDigits

theorem IsUnsigned.unsigned? (unsigned : IsUnsigned negative v t) (ends : EndsNumeral rest) :
    unsigned? negative (t ++ rest) = some (v, rest) := by
  cases unsigned with
  | whole isWhole ending =>
    rename_i s
    have noPoint : ∀ u, s ++ rest ≠ '.' :: u := by
      intro u same
      cases ending with
      | exponent isMark =>
        obtain rfl := (List.cons.inj same).1
        rcases isMark with mark | mark <;> cases mark
      | _ => exact (ends '.' (by rw [← List.nil_append rest, same]; rfl)).2.1 rfl
    rw [List.append_assoc, Json.unsigned?, isWhole.1.digitRun? (ending.stopsDigits ends)]
    -- As no point follows, the numeral ends here.
    simp only [Option.bind_eq_bind, Option.bind_some, if_neg isWhole.2]
    exact ending.numeralEnd? ends
  | places isWhole digits ending =>
    rw [List.append_assoc, List.cons_append, Json.unsigned?, isWhole.1.digitRun? (stopsDigits_cons rfl _),
      List.append_assoc]
    simp only [Option.bind_eq_bind, Option.bind_some, if_neg isWhole.2, digits.digitRun? (ending.stopsDigits ends),
      ending.numeralEnd? ends]

theorem numeral?_eq_some (read : numeral? s = some (v, rest)) : ∃ t, IsNumeral v t ∧ s = t ++ rest := by
  unfold numeral? at read
  split at read
  · obtain ⟨t, unsigned, rfl⟩ := unsigned?_eq_some read
    exact ⟨_, .negative unsigned, rfl⟩
  · obtain ⟨t, unsigned, rfl⟩ := unsigned?_eq_some read
    exact ⟨_, .positive unsigned, rfl⟩

theorem IsNumeral.numeral? (numeral : IsNumeral v t) (ends : EndsNumeral rest) :
    numeral? (t ++ rest) = some (v, rest) := by
  cases numeral with
  | negative unsigned => exact unsigned.unsigned? ends
  | positive unsigned =>
    obtain ⟨c, r, rfl, digit⟩ := unsigned.begins
    have noSign : ∀ u, c :: r ++ rest = '-' :: u → False := by
      rintro u same
      cases (List.cons.inj same).1
      cases digit
    rw [Json.numeral?.eq_2 _ noSign]
    exact unsigned.unsigned? ends

/-! ### The numbers that numerals stand for -/

/-- An integer that a signed or an unsigned 64-bit word can hold. -/
def fitsWord (n : Int) : Bool := decide (-0x8000000000000000 ≤ n ∧ n ≤ Text.Decimal.wordMax)

theorem double_cases (negative : Bool) (whole places : List Char) (exponent : Int) :
    (∃ d, double negative whole places exponent = .number (.double d)) ∨
      double negative whole places exponent = .unreadable := by
  simp only [double]
  split
  · exact Or.inl ⟨_, rfl⟩
  · exact Or.inr rfl

theorem IsInteger.fitsWord {n : Nat} {i : Int} (integer : IsInteger negative n i) : fitsWord i = true := by
  apply decide_eq_true
  cases integer with
  | positive fits =>
    show _ ∧ (n : Int) ≤ 0xffffffffffffffff
    omega
  | negative nonzero fits =>
    show _ ∧ -(n : Int) ≤ 0xffffffffffffffff
    omega

theorem IsNumeralEnd.cases_number (ending : IsNumeralEnd negative whole places v s) :
    (∃ i, fitsWord i = true ∧ v = .number (.int i)) ∨ (∃ d, v = .number (.double d)) ∨ v = .unreadable := by
  cases ending with
  | integer none integer => exact Or.inl ⟨_, integer.fitsWord, rfl⟩
  | _ => exact Or.inr (double_cases negative whole _ _)

theorem IsNumeral.cases_number (numeral : IsNumeral v s) :
    (∃ i, fitsWord i = true ∧ v = .number (.int i)) ∨ (∃ d, v = .number (.double d)) ∨ v = .unreadable := by
  cases numeral with
  | positive unsigned => cases unsigned <;> exact IsNumeralEnd.cases_number ‹_›
  | negative unsigned => cases unsigned <;> exact IsNumeralEnd.cases_number ‹_›

theorem IsNumeral.exists_number (numeral : IsNumeral v s) (readable : v.isReadable = true) : ∃ x, v = .number x := by
  rcases numeral.cases_number with ⟨_, -, same⟩ | ⟨_, same⟩ | rfl
  · exact ⟨_, same⟩
  · exact ⟨_, same⟩
  · cases readable

/-- An integer in a text fits a 64-bit word. -/
theorem IsNumeral.fitsWord {i : Int} (numeral : IsNumeral (.number (.int i)) s) : fitsWord i = true := by
  rcases numeral.cases_number with ⟨_, fits, same⟩ | ⟨_, same⟩ | same
  · cases same
    exact fits
  · cases same
  · cases same

theorem isWhole_digits (n : Nat) : IsWhole (Text.Decimal.digits n) :=
  ⟨⟨Text.Decimal.digits_ne_nil n, fun _ => Text.Decimal.isAsciiDigit_of_mem_digits⟩,
    fun zeros => zeros.2 (Text.Decimal.digits_of_head? zeros.1)⟩

theorem isUnsigned_digits {n : Nat} {i : Int} (integer : IsInteger negative n i) :
    IsUnsigned negative (.number (.int i)) (Text.Decimal.digits n) := by
  have value : IsInteger negative (Nat.ofDigitChars 10 (Text.Decimal.digits n) 0) i := by
    rwa [← Text.Decimal.valueFrom_eq_ofDigitChars, Text.Decimal.valueFrom_digits]
  have numeral := IsUnsigned.whole (isWhole_digits n) (.integer rfl value)
  rwa [List.append_nil] at numeral

/-- An integer is written as a numeral for it. -/
theorem isNumeral_renderInt {n : Int} (fits : fitsWord n = true) :
    IsNumeral (.number (.int n)) (Text.Decimal.renderInt n).toList := by
  obtain ⟨least, most⟩ := of_decide_eq_true fits
  cases n with
  | ofNat n =>
    have below : n < 0x10000000000000000 := Nat.lt_succ_iff.mpr (Int.ofNat_le.mp most)
    rw [Text.Decimal.renderInt, Text.Decimal.render, String.toList_ofList]
    exact .positive (isUnsigned_digits (.positive below))
  | negSucc n =>
    have bounded : n + 1 ≤ 0x8000000000000000 := by omega
    rw [Text.Decimal.renderInt, String.toList_ofList]
    exact .negative (isUnsigned_digits (.negative (Nat.succ_pos n) bounded))

end TorrentAdmission.Json
