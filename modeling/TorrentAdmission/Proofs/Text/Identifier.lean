import Mathlib.Algebra.GroupWithZero.Nat
import TorrentAdmission.Uuid

/-!
# Identifiers read back

An identifier that has been written reads as itself.
-/

namespace TorrentAdmission

open Text

theorem Text.Hex.mapM_value?_digit (digits : List (Fin 16)) : (digits.map digit).mapM value? = some digits := by
  induction digits with
  | nil => rfl
  | cons d r ih => rw [List.map_cons, List.mapM_cons, value?_digit, ih]; rfl

namespace Uuid

theorem unhyphenate?_hyphenate {groups : List Nat} {s : List Char} (size : s.length = groups.sum) :
    unhyphenate? groups (hyphenate groups s) = some s := by
  induction groups generalizing s with
  | nil =>
    obtain rfl := List.length_eq_zero_iff.mp size
    rfl
  | cons n r ih =>
    cases r with
    | nil =>
      show (if s.length = n then some s else none) = some s
      exact if_pos size
    | cons m r =>
      have enough : n ≤ s.length := by rw [size, List.sum_cons]; omega
      have others : (s.drop n).length = (m :: r).sum := by rw [List.length_drop, size, List.sum_cons]; omega
      have front : (s.take n).length = n := List.length_take_of_le enough
      rw [hyphenate, unhyphenate?, List.drop_left' front, List.take_left' front]
      simp only [ih others, Option.map_some, List.take_append_drop]

theorem length_hyphenate {n : Nat} {r : List Nat} {s : List Char} (size : s.length = (n :: r).sum) :
    (hyphenate (n :: r) s).length = s.length + r.length := by
  induction r generalizing n s with
  | nil => rfl
  | cons m r ih =>
    have others : (s.drop n).length = (m :: r).sum := by rw [List.length_drop, size, List.sum_cons]; omega
    have enough : n ≤ s.length := by rw [size, List.sum_cons]; omega
    rw [hyphenate, List.length_append, List.length_cons, ih others, List.length_take_of_le enough,
      List.length_drop, List.length_cons]
    omega

theorem ofPlain?_digits (u : Uuid) : ofPlain? (u.digits.map Hex.digit) = some u := by
  rw [ofPlain?, Hex.mapM_value?_digit]
  exact dif_pos u.size

theorem parse?_render (u : Uuid) : parse? u.render = some u := by
  have size : (u.digits.map Hex.digit).length = groups.sum := by rw [List.length_map, u.size]; rfl
  have length : u.chars.length = 36 := by rw [chars, groups, length_hyphenate size, List.length_map, u.size]; rfl
  have parts : ofHyphenated? u.chars = some u := by
    rw [ofHyphenated?, chars, unhyphenate?_hyphenate size]
    exact ofPlain?_digits u
  rw [parse?, render, String.toList_ofList, ofChars?, if_neg (by omega), if_pos length, parts]

@[simp] theorem ofJson?_toJson (u : Uuid) : ofJson? u.toJson = some u := parse?_render u

end Uuid

end TorrentAdmission
