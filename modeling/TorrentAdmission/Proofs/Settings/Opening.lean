import TorrentAdmission.Startup
import TorrentAdmission.Proofs.Desk.Audience
import TorrentAdmission.Proofs.Settings.Agreement

/-!
# Opening a desk

Settings that cannot be used are refused with the complaint about them. All others open a desk whose bus has the
capacity asked for and is the one on which tasks publish, unless no channel can have this capacity: that brings
the caller down.
-/

namespace TorrentAdmission

namespace Settings

variable {s : Settings}

theorem validate_eq_ok : s.validate = .ok s ↔ ∀ c : CheckedSetting, ¬ c.Offends s :=
  validate_eq_ok_iff.trans (and_iff_right rfl)

/-- A bus is never asked for a capacity that it would refuse. -/
theorem capacity_positive (usable : s.validate = .ok s) : s.replay.capacity ≠ 0 :=
  validate_eq_ok.mp usable .capacity

theorem openDesk_of_error {e : SettingsError} (refused : s.validate = .error e) (backend : Backend) :
    s.openDesk backend = .refused (.settings "config.validate" e) := by
  rw [openDesk, refused]

theorem new_of_ok (usable : s.validate = .ok s) (fits : s.replay.capacity ≤ Bus.maxCapacity) :
    (Bus.new s.replay.capacity : Bus.Opening Event) = .opened { capacity := s.replay.capacity } := by
  rw [Bus.new, if_neg (capacity_positive usable), if_neg (Nat.not_lt.mpr fits)]

theorem openDesk_of_ok (usable : s.validate = .ok s) (fits : s.replay.capacity ≤ Bus.maxCapacity) (backend : Backend) :
    s.openDesk backend = .opened (.new { capacity := s.replay.capacity }) { backend, limits := s.limits } := by
  simp only [openDesk, usable, new_of_ok usable fits]

theorem openDesk_of_beyond (usable : s.validate = .ok s) (beyond : Bus.maxCapacity < s.replay.capacity)
    (backend : Backend) : s.openDesk backend = .crashed := by
  simp only [openDesk, usable, Bus.new, if_neg (capacity_positive usable), if_pos beyond]

/-- The bus keeps its capacity, and all that the tasks publish goes to it. -/
theorem run_new_bus {capacity : Nat} {bus : Bus Event} (opened : Bus.new capacity = .opened bus) (ms : List Move) :
    ((Desk.new bus).run ms).bus.capacity = capacity ∧
      ((Desk.new bus).run ms).bus.Records ((Desk.new bus).run ms).posted := by
  have sends : (Desk.new bus).Sends capacity := ⟨(Exchange.new_capacity opened).1, [], Bus.new_records opened⟩
  exact ⟨(Desk.run_invariant Desk.edit_sends Desk.rearranged_sends _ ms sends).1, Desk.run_records opened ms⟩

/-- What comes of opening a desk, for any settings. -/
theorem openDesk_outcome (s : Settings) (backend : Backend) :
    ((∃ e, s.validate = .error e) ∨ s.validate = .ok s) ∧
      (∀ e, s.validate = .error e → s.openDesk backend = .refused (.settings "config.validate" e)) ∧
      (s.validate = .ok s → s.replay.capacity ≤ Bus.maxCapacity →
        ∃ desk, s.openDesk backend = .opened desk { backend, limits := s.limits } ∧
          ∀ ms, (desk.run ms).bus.capacity = s.replay.capacity ∧ (desk.run ms).bus.Records (desk.run ms).posted) ∧
      (s.validate = .ok s → Bus.maxCapacity < s.replay.capacity → s.openDesk backend = .crashed) := by
  refine ⟨?_, fun e refused => openDesk_of_error refused backend, fun usable fits => ?_, fun usable beyond =>
    openDesk_of_beyond usable beyond backend⟩
  · rw [validate]
    cases s.problem? with
    | none => exact .inr rfl
    | some e => exact .inl ⟨e, rfl⟩
  · refine ⟨_, openDesk_of_ok usable fits backend, fun ms => ?_⟩
    exact run_new_bus (new_of_ok usable fits) ms

/-- Settings that pass the check can still bring the caller down. -/
theorem valid_settings_crash :
    ∃ s : Settings, s.validate = .ok s ∧ ∀ backend : Backend, s.openDesk backend = .crashed :=
  ⟨{ replay := { capacity := 0x8000000000000000 } }, rfl, fun _ => rfl⟩

end Settings

end TorrentAdmission
