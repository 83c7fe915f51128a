import TorrentAdmission.Proofs.Settings.Overlay
import TorrentAdmission.Proofs.Text.Numeral

/-!
# Variables that hold a number

Three variables hold a number. Whatever their text says is entered as it stands, if it is a numeral and its number
fits a 64-bit word. Every other text ends the overlaying with a complaint that repeats it: `overlayAll_number`.
-/

namespace TorrentAdmission

open Text

namespace Variable

/-- The variable holds a number, and this is how it is entered in settings. -/
inductive HoldsNumber : Variable → (Settings → Nat → Settings) → Prop where
  | callLimit : HoldsNumber .callLimit fun s n => { s with limits.call := n }
  | prefetchLimit : HoldsNumber .prefetchLimit fun s n => { s with limits.prefetch := n }
  | replayCapacity : HoldsNumber .replayCapacity fun s n => { s with replay.capacity := n }

variable {v : Variable} {enter : Settings → Nat → Settings}

theorem HoldsNumber.enter? (holds : v.HoldsNumber enter) (text : String) (s : Settings) :
    v.enter? text s = (word? text).map (enter s) := by
  cases holds <;> rfl

theorem HoldsNumber.reason (holds : v.HoldsNumber enter) : v.reason = wordReason := by
  cases holds <;> rfl

theorem word?_eq_some {text : String} {n : Nat} :
    word? text = some n ↔ Decimal.IsNumeral text.toList n ∧ n ≤ Decimal.wordMax :=
  Decimal.word?_trimChars

end Variable

namespace Settings

open Variable

variable {v : Variable} {enter : Settings → Nat → Settings} {lookup : String → Option String} {text : String}

/-- Wherever in an overlaying a variable with a number has its turn, the number that its text stands for is entered,
neither wrapped nor cut off, or the overlaying ends there. -/
theorem overlayAll_number (holds : v.HoldsNumber enter) (present : lookup v.name = some text) (rest : List Variable)
    (s : Settings) :
    (∀ n, word? text = some n ↔ Decimal.IsNumeral text.toList n ∧ n ≤ 2 ^ 64 - 1) ∧
    word? text = (Decimal.checked? (trimChars text.toList)).map UInt64.toNat ∧
    (∀ n, Decimal.IsNumeral text.toList n → n ≤ 2 ^ 64 - 1 →
      (overlayAll lookup (v :: rest) s).settings = (overlayAll lookup rest (enter s n)).settings ∧
        (overlayAll lookup (v :: rest) s).error = (overlayAll lookup rest (enter s n)).error) ∧
    ((∀ n, Decimal.IsNumeral text.toList n → 2 ^ 64 ≤ n) →
      (overlayAll lookup (v :: rest) s).settings = s ∧
        (overlayAll lookup (v :: rest) s).error =
          some (.variable v.name text "must be a non-negative integer")) := by
  refine ⟨fun n => word?_eq_some, Decimal.word?_eq_checked _, fun n numeral fits => ?_, fun beyond => ?_⟩
  · have entered : v.enter? text s = some (enter s n) := by
      rw [holds.enter?, word?_eq_some.mpr ⟨numeral, fits⟩, Option.map_some]
    rw [overlayAll]
    simp only [present, entered, and_self]
  · have unread : word? text = none := by
      apply Option.eq_none_iff_forall_ne_some.mpr
      intro n read
      obtain ⟨numeral, fits⟩ := word?_eq_some.mp read
      exact absurd (beyond n numeral) (Nat.not_le_of_lt (Nat.lt_succ_of_le fits))
    have refused : v.enter? text s = none := by rw [holds.enter?, unread, Option.map_none]
    rw [overlayAll]
    simp only [present, refused, holds.reason, wordReason, and_self]

/-- The greatest word is entered in spite of the sign, the zeros and the blanks, and the next number is not. -/
theorem greatest_capacity_entered :
    (overlayAll (fun _ => some "\u3000+0018446744073709551615\n") [.replayCapacity] {}).settings =
        { replay := ⟨18446744073709551615⟩ } ∧
      (overlayAll (fun _ => some "18446744073709551616") [.replayCapacity] {}).error =
        some (.variable "INTAKE_EVENT_REPLAY_CAPACITY" "18446744073709551616" "must be a non-negative integer") := by
  constructor
  · obtain ⟨reads, -, entered, -⟩ :=
      @overlayAll_number _ _ (fun _ => some "\u3000+0018446744073709551615\n") _ .replayCapacity rfl [] {}
    obtain ⟨numeral, fits⟩ := (reads 18446744073709551615).mp rfl
    exact (entered _ numeral fits).1
  · obtain ⟨reads, -, -, refused⟩ :=
      @overlayAll_number _ _ (fun _ => some "18446744073709551616") _ .replayCapacity rfl [] {}
    refine (refused fun n numeral => Nat.lt_of_not_le fun fits => ?_).2
    cases (reads n).mpr ⟨numeral, fits⟩

/-- A sign of the other kind is no plus sign, and a mark between digits no digit. -/
example : word? "-0" = none ∧ word? "60_000" = none ∧ word? "+" = none := ⟨rfl, rfl, rfl⟩

end Settings

end TorrentAdmission
