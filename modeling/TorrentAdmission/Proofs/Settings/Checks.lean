import TorrentAdmission.Settings.Basic

/-!
# Settings that cannot be used

Four of the settings are checked, one after another. Settings can be used if none of these offends, and otherwise
the first one that does is complained about: `Settings.validate_eq_ok_iff` and `Settings.problem?_eq_error`.
-/

namespace TorrentAdmission

open Text

/-- The settings that are checked. -/
inductive CheckedSetting where
  | call
  | prefetch
  | level
  | capacity

namespace CheckedSetting

def Offends (s : Settings) : CheckedSetting → Prop
  | .call => s.limits.call = 0
  | .prefetch => s.limits.prefetch = 0
  | .level => isBlankText s.log.level = true
  | .capacity => s.replay.capacity = 0

instance (s : Settings) (c : CheckedSetting) : Decidable (c.Offends s) :=
  match c with
  | .call => inferInstanceAs (Decidable (_ = 0))
  | .prefetch => inferInstanceAs (Decidable (_ = 0))
  | .level => inferInstanceAs (Decidable (_ = true))
  | .capacity => inferInstanceAs (Decidable (_ = 0))

def error (s : Settings) : CheckedSetting → SettingsError
  | .call => .invalid "resolver" "call_timeout_ms" (some (Decimal.render s.limits.call)) "must be positive"
  | .prefetch => .invalid "resolver" "prefetch_timeout_ms" (some (Decimal.render s.limits.prefetch)) "must be positive"
  | .level => .invalid "telemetry" "log_level" (some s.log.level) "must not be empty"
  | .capacity => .invalid "events" "replay_capacity" (some (Decimal.render s.replay.capacity)) "must be positive"

/-- The settings that are checked earlier. -/
def before : CheckedSetting → List CheckedSetting
  | .call => []
  | .prefetch => [.call]
  | .level => [.call, .prefetch]
  | .capacity => [.call, .prefetch, .level]

theorem before_shorter {b k : CheckedSetting} (member : b ∈ k.before) : b.before.length < k.before.length := by
  cases k <;> cases b <;> simp [before] at member ⊢

end CheckedSetting

namespace Settings

theorem checkPositive_eq_none {group field : String} {n : Nat} : checkPositive group field n = none ↔ ¬ n = 0 := by
  simp [checkPositive]

theorem checkLevel_eq_none {level : String} : checkLevel level = none ↔ ¬ isBlankText level = true := by
  simp [checkLevel]

theorem problem?_eq_none {s : Settings} : s.problem? = none ↔ ∀ c : CheckedSetting, ¬ c.Offends s := by
  simp only [problem?, Option.orElse_eq_orElse, ← Option.or_eq_orElse, Option.or_eq_none_iff, checkPositive_eq_none,
    checkLevel_eq_none]
  constructor
  · rintro ⟨call, prefetch, level, capacity⟩ c
    cases c with
    | call => exact call
    | prefetch => exact prefetch
    | level => exact level
    | capacity => exact capacity
  · intro usable
    exact ⟨usable .call, usable .prefetch, usable .level, usable .capacity⟩

theorem problem?_eq_error {s : Settings} {c : CheckedSetting} (offends : c.Offends s)
    (first : ∀ b ∈ c.before, ¬ b.Offends s) : s.problem? = some (c.error s) := by
  cases c with
  | call =>
    have zero : s.limits.call = 0 := offends
    simp [problem?, checkPositive, zero, CheckedSetting.error]
  | prefetch =>
    have call : s.limits.call ≠ 0 := first .call (.head _)
    have zero : s.limits.prefetch = 0 := offends
    simp [problem?, checkPositive, call, zero, CheckedSetting.error]
  | level =>
    have call : s.limits.call ≠ 0 := first .call (.head _)
    have prefetch : s.limits.prefetch ≠ 0 := first .prefetch (.tail _ (.head _))
    have blank : isBlankText s.log.level = true := offends
    simp [problem?, checkPositive, checkLevel, call, prefetch, blank, CheckedSetting.error]
  | capacity =>
    have call : s.limits.call ≠ 0 := first .call (.head _)
    have prefetch : s.limits.prefetch ≠ 0 := first .prefetch (.tail _ (.head _))
    have level : ¬ isBlankText s.log.level = true := first .level (.tail _ (.tail _ (.head _)))
    have zero : s.replay.capacity = 0 := offends
    simp [problem?, checkPositive, checkLevel, call, prefetch, level, zero, CheckedSetting.error]

theorem validate_eq_ok_iff {s c : Settings} : s.validate = .ok c ↔ s = c ∧ ∀ k : CheckedSetting, ¬ k.Offends s := by
  rw [← problem?_eq_none, validate]
  cases s.problem? <;> simp

/-- If an earlier one offends, the search goes on among those before it, which are fewer. -/
theorem exists_first_offence {s : Settings} {k : CheckedSetting} (offends : k.Offends s) :
    ∃ k : CheckedSetting, k.Offends s ∧ ∀ b ∈ k.before, ¬ b.Offends s := by
  by_cases earlier : ∃ b ∈ k.before, b.Offends s
  · obtain ⟨b, member, also⟩ := earlier
    have fewer := CheckedSetting.before_shorter member
    exact exists_first_offence also
  · exact ⟨k, offends, fun b member also => earlier ⟨b, member, also⟩⟩
termination_by k.before.length

end Settings

end TorrentAdmission
