import Mathlib.Data.List.Induction
import Mathlib.Data.Nat.Digits.Defs
import TorrentAdmission.Proofs.Text.Blank
import TorrentAdmission.Proofs.Text.Decimal

/-!
# Numerals of 64-bit words

Which texts stand for a number: one or more digits, perhaps with a plus sign in front of them, and with blanks
around both. A word is read from exactly those whose number fits (`word?_trimChars`), and a reader that has no more
than a word to count in, and never lets it wrap, reads the same (`word?_eq_checked`).
-/

namespace TorrentAdmission.Text.Decimal

def digitValue (c : Char) : Nat := c.toNat - '0'.toNat

/-- Digits with the number they stand for, the last one for the ones. -/
structure Spells (digits : List Char) (n : Nat) : Prop where
  nonempty : digits ≠ []
  areDigits : ∀ c ∈ digits, isAsciiDigit c = true
  value : Nat.ofDigits 10 (digits.reverse.map digitValue) = n

def IsSign (sign : List Char) : Prop := sign = [] ∨ sign = ['+']

/-- A text that stands for a number. -/
inductive IsNumeral : List Char → Nat → Prop where
  | intro {before sign digits after : List Char} {n : Nat} (front : ∀ c ∈ before, isBlank c = true)
      (isSign : IsSign sign) (spells : Spells digits n) (behind : ∀ c ∈ after, isBlank c = true) :
      IsNumeral (before ++ (sign ++ digits) ++ after) n

variable {s : List Char} {n : Nat}

/-! ### Digits -/

theorem valueFrom_append (n : Nat) (s t : List Char) : valueFrom n (s ++ t) = valueFrom (valueFrom n s) t := by
  induction s generalizing n with
  | nil => rfl
  | cons c r ih => exact ih _

theorem valueFrom_eq_ofDigits (s : List Char) : valueFrom 0 s = Nat.ofDigits 10 (s.reverse.map digitValue) := by
  -- the last digit is the first one of the reversed digits
  induction s using List.reverseRecOn with
  | nil => rfl
  | append_singleton s c ih =>
    rw [valueFrom_append, ih, List.reverse_append, List.reverse_singleton, List.singleton_append, List.map_cons,
      Nat.ofDigits_cons, Nat.add_comm]
    rfl

theorem natural?_eq_some : natural? s = some n ↔ Spells s n := by
  cases s with
  | nil => exact iff_of_false (by simp [natural?]) fun spells => spells.nonempty rfl
  | cons c r =>
    rw [natural?, Option.ite_none_right_eq_some, List.all_eq_true, valueFrom_eq_ofDigits, Option.some_inj]
    constructor
    · rintro ⟨digits, value⟩
      exact ⟨List.cons_ne_nil c r, digits, value⟩
    · exact fun spells => ⟨spells.areDigits, spells.value⟩

/-! ### Signs and blanks -/

theorem Spells.not_plus {r : List Char} (spells : Spells ('+' :: r) n) : False := by
  have plus : isAsciiDigit '+' = true := spells.areDigits '+' List.mem_cons_self
  cases plus

theorem word?_eq_some :
    word? s = some n ↔ (∃ sign digits, s = sign ++ digits ∧ IsSign sign ∧ Spells digits n) ∧ n ≤ wordMax := by
  have value : ∀ t : List Char, (natural? t).filter (· ≤ wordMax) = some n ↔ Spells t n ∧ n ≤ wordMax := by
    intro t
    rw [Option.filter_eq_some_iff, natural?_eq_some, decide_eq_true_iff]
  unfold word?
  split
  · rename_i r
    rw [value, and_congr_left_iff]
    intro fits
    constructor
    · exact fun spells => ⟨['+'], r, rfl, Or.inr rfl, spells⟩
    · rintro ⟨sign, digits, parts, rfl | rfl, spells⟩
      · rw [List.nil_append] at parts
        exact (parts ▸ spells).not_plus.elim
      · obtain ⟨-, rfl⟩ := List.cons.inj parts
        exact spells
  · rename_i unsigned
    rw [value, and_congr_left_iff]
    intro fits
    constructor
    · exact fun spells => ⟨[], s, rfl, Or.inl rfl, spells⟩
    · rintro ⟨sign, digits, rfl, rfl | rfl, spells⟩
      · exact spells
      · exact absurd rfl (unsigned digits)

theorem not_blank_of_spells {sign digits : List Char} (isSign : IsSign sign) (spells : Spells digits n) :
    ∀ c ∈ sign ++ digits, isBlank c = false := by
  intro c member
  rcases List.mem_append.mp member with inSign | inDigits
  · rcases isSign with rfl | rfl
    · cases inSign
    · obtain rfl := List.mem_singleton.mp inSign
      decide
  · exact isBlank_of_isAsciiDigit (spells.areDigits c inDigits)

theorem word?_trimChars : word? (trimChars s) = some n ↔ IsNumeral s n ∧ n ≤ wordMax := by
  rw [word?_eq_some, and_congr_left_iff]
  intro fits
  constructor
  · rintro ⟨sign, digits, trimmed, isSign, spells⟩
    obtain ⟨before, after, padded, front, behind⟩ := padded_trimChars s
    rw [padded, trimmed]
    exact .intro front isSign spells behind
  · rintro ⟨front, isSign, spells, behind⟩
    exact ⟨_, _, trimChars_padded front (not_blank_of_spells isSign spells) behind, isSign, spells⟩

/-! ### Reading in a word -/

/-- A word with one more digit behind its own, unless that would be more than a word. -/
def pushDigit? (w : UInt64) (c : Char) : Option UInt64 :=
  let digit := UInt64.ofNat (digitValue c)
  if isAsciiDigit c ∧ w ≤ (0xffffffffffffffff - digit) / 10 then some (10 * w + digit) else none

/-- A word read digit by digit, with nothing but words to count in. -/
def checked? (s : List Char) : Option UInt64 :=
  let unsigned := match s with
    | '+' :: r => r
    | r => r
  if unsigned = [] then none else unsigned.foldlM pushDigit? 0

theorem le_valueFrom (n : Nat) (s : List Char) : n ≤ valueFrom n s := by
  induction s generalizing n with
  | nil => exact Nat.le_refl n
  | cons c r ih =>
    have grows : n ≤ 10 * n + (c.toNat - '0'.toNat) := by omega
    exact Nat.le_trans grows (ih _)

theorem digitValue_le {c : Char} (digit : isAsciiDigit c = true) : digitValue c ≤ 9 := by
  have below : c.toNat ≤ 57 := (of_decide_eq_true digit).2
  show c.toNat - 48 ≤ 9
  omega

theorem exists_toNat_eq (fits : n < 2 ^ 64) : ∃ w : UInt64, w.toNat = n :=
  ⟨UInt64.ofNat n, UInt64.toNat_ofNat_of_lt' fits⟩

theorem le_div_ten {w d : UInt64} (small : d.toNat ≤ 9) :
    w ≤ (0xffffffffffffffff - d) / 10 ↔ 10 * w.toNat + d.toNat < 2 ^ 64 := by
  have subtracted : d ≤ 0xffffffffffffffff := by
    rw [UInt64.le_iff_toNat_le]
    exact Nat.le_trans small (by decide)
  rw [UInt64.le_iff_toNat_le, UInt64.toNat_div, UInt64.toNat_sub_of_le _ _ subtracted]
  show w.toNat ≤ (18446744073709551615 - d.toNat) / 10 ↔ _
  omega

theorem toNat_ten_mul_add {w d : UInt64} (fits : 10 * w.toNat + d.toNat < 2 ^ 64) :
    (10 * w + d).toNat = 10 * w.toNat + d.toNat := by
  have tenfold : 10 * w.toNat < 2 ^ 64 := by omega
  rw [UInt64.toNat_add, UInt64.toNat_mul]
  show (10 * w.toNat % 2 ^ 64 + d.toNat) % 2 ^ 64 = _
  rw [Nat.mod_eq_of_lt tenfold, Nat.mod_eq_of_lt fits]

theorem pushDigit?_eq_some {w v : UInt64} {c : Char} :
    pushDigit? w c = some v ↔ isAsciiDigit c = true ∧ v.toNat = 10 * w.toNat + digitValue c := by
  unfold pushDigit?
  dsimp only
  rw [Option.ite_none_right_eq_some, Option.some_inj, and_assoc, and_congr_right_iff]
  intro digit
  have small := digitValue_le digit
  obtain ⟨d, value⟩ := exists_toNat_eq (Nat.lt_of_le_of_lt small (by decide))
  rw [← value] at small ⊢
  rw [UInt64.ofNat_toNat, le_div_ten small]
  constructor
  · rintro ⟨fits, rfl⟩
    exact toNat_ten_mul_add fits
  · intro pushed
    have fits : 10 * w.toNat + d.toNat < 2 ^ 64 := pushed ▸ v.toNat_lt
    exact ⟨fits, UInt64.toNat_inj.mp ((toNat_ten_mul_add fits).trans pushed.symm)⟩

theorem foldlM_pushDigit?_eq_some {w v : UInt64} : s.foldlM pushDigit? w = some v ↔
    (∀ c ∈ s, isAsciiDigit c = true) ∧ v.toNat = valueFrom w.toNat s := by
  induction s generalizing w with
  | nil =>
    rw [List.foldlM_nil, Option.pure_def, Option.some_inj, and_iff_right (List.forall_mem_nil _), eq_comm]
    exact UInt64.toNat_inj.symm
  | cons c r ih =>
    rw [List.foldlM_cons, Option.bind_eq_bind, Option.bind_eq_some_iff, List.forall_mem_cons]
    constructor
    · rintro ⟨u, pushed, read⟩
      obtain ⟨digit, value⟩ := pushDigit?_eq_some.mp pushed
      obtain ⟨digits, total⟩ := ih.mp read
      exact ⟨⟨digit, digits⟩, total.trans (congrArg (valueFrom · r) value)⟩
    · rintro ⟨⟨digit, digits⟩, total⟩
      -- what is read so far is never more than the whole, and so it is a word
      have soFar : 10 * w.toNat + digitValue c ≤ v.toNat := total ▸ le_valueFrom _ r
      obtain ⟨u, value⟩ := exists_toNat_eq (Nat.lt_of_le_of_lt soFar v.toNat_lt)
      refine ⟨u, pushDigit?_eq_some.mpr ⟨digit, value⟩, ih.mpr ⟨digits, ?_⟩⟩
      rw [value]
      exact total

theorem filter_natural? (digits : List Char) : (natural? digits).filter (· ≤ wordMax) =
    (if digits = [] then none else digits.foldlM pushDigit? 0).map UInt64.toNat := by
  ext n
  rw [Option.filter_eq_some_iff, natural?_eq_some, decide_eq_true_iff, Option.map_eq_some_iff]
  simp only [Option.ite_none_left_eq_some, foldlM_pushDigit?_eq_some, UInt64.toNat_zero, valueFrom_eq_ofDigits]
  constructor
  · rintro ⟨⟨nonempty, areDigits, value⟩, fits⟩
    obtain ⟨w, same⟩ := exists_toNat_eq (Nat.lt_succ_of_le fits)
    exact ⟨w, ⟨nonempty, areDigits, same.trans value.symm⟩, same⟩
  · rintro ⟨w, ⟨nonempty, areDigits, value⟩, rfl⟩
    exact ⟨⟨nonempty, areDigits, value.symm⟩, Nat.le_of_lt_succ w.toNat_lt⟩

theorem word?_eq_checked (s : List Char) : word? s = (checked? s).map UInt64.toNat :=
  filter_natural? _

end TorrentAdmission.Text.Decimal
