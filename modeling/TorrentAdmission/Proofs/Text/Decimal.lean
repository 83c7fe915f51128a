import TorrentAdmission.Text.Blank
import TorrentAdmission.Text.Decimal

/-!
# Decimal numerals read back

The digits of a number have the value of the number, and no zero stands in front of them.
-/

namespace TorrentAdmission.Text

theorem isAsciiDigit_eq_isDigit (c : Char) : isAsciiDigit c = c.isDigit := by
  simp only [isAsciiDigit, Char.isDigit, Bool.decide_and]
  rfl

theorem isBlank_of_isAsciiDigit {c : Char} (digit : isAsciiDigit c = true) : isBlank c = false := by
  have above : 48 ≤ c.toNat := (of_decide_eq_true digit).1
  have below : c.toNat ≤ 57 := (of_decide_eq_true digit).2
  simp only [isBlank, blankRanges, List.any_eq_false, decide_eq_true_eq]
  intro range member
  simp only [List.mem_cons, List.not_mem_nil, or_false] at member
  rcases member with rfl | rfl | rfl | rfl | rfl | rfl | rfl | rfl | rfl | rfl <;> omega

namespace Decimal

theorem valueFrom_eq_ofDigitChars (n : Nat) (s : List Char) : valueFrom n s = Nat.ofDigitChars 10 s n := by
  induction s generalizing n with
  | nil => rfl
  | cons c r ih => exact (ih _).trans Nat.ofDigitChars_cons.symm

theorem valueFrom_digits (n : Nat) : valueFrom 0 (digits n) = n := by
  rw [valueFrom_eq_ofDigitChars, digits, Nat.ofDigitChars_ten_toDigits]

theorem digits_ne_nil (n : Nat) : digits n ≠ [] := Nat.toDigits_ne_nil

theorem isAsciiDigit_of_mem_digits {n : Nat} {c : Char} (member : c ∈ digits n) : isAsciiDigit c = true := by
  rw [isAsciiDigit_eq_isDigit]
  exact Nat.isDigit_of_mem_toDigits (by decide) (by decide) member

theorem head?_digits {n : Nat} (positive : 0 < n) : (digits n).head? ≠ some '0' := by
  induction n using Nat.strongRecOn with
  | _ n ih =>
    rw [digits, Nat.toDigits_eq_if (by decide)]
    split
    · rw [List.head?_cons, Ne, Option.some_inj, Nat.digitChar_eq_zero]
      exact Nat.ne_of_gt positive
    · have front := ih (n / 10) (by omega) (by omega)
      obtain ⟨c, r, written⟩ := List.exists_cons_of_ne_nil (digits_ne_nil (n / 10))
      rw [digits] at written
      rw [digits, written] at front
      rwa [written]

/-- Of all numbers only zero is written with a zero in front. -/
theorem digits_of_head? {n : Nat} (zero : (digits n).head? = some '0') : digits n = ['0'] := by
  cases n with
  | zero => rfl
  | succ n => exact absurd zero (head?_digits (Nat.succ_pos n))

theorem natural?_digits (n : Nat) : natural? (digits n) = some n := by
  obtain ⟨c, r, written⟩ := List.exists_cons_of_ne_nil (digits_ne_nil n)
  have all : (c :: r).all isAsciiDigit = true := by
    rw [← written, List.all_eq_true]
    exact fun _ => isAsciiDigit_of_mem_digits
  rw [written, natural?, if_pos all, ← written, valueFrom_digits]

theorem word?_digits {n : Nat} (fits : n ≤ wordMax) : word? (digits n) = some n := by
  have value : (natural? (digits n)).filter (· ≤ wordMax) = some n := by
    rw [natural?_digits, Option.filter_some, if_pos (decide_eq_true fits)]
  unfold word?
  split
  · rename_i r written
    have plus : isAsciiDigit '+' = true := isAsciiDigit_of_mem_digits (by rw [written]; exact List.mem_cons_self)
    cases plus
  · exact value

end Decimal

end TorrentAdmission.Text
