import TorrentAdmission.Proofs.Desk.Ending
import TorrentAdmission.Proofs.Torrent.MagnetLink

/-!
# Names to show

A text that is taken for a magnet link by its first characters can be read as one, whatever stands behind these.
So the name that is announced with a magnet link is always the name that a link gives, and with an address none
is announced: `run_hints`.
-/

namespace TorrentAdmission

theorem SourceKind.head_of_magnet {text : String} (magnet : SourceKind.of text = .magnet) :
    ∃ rest, text.toList = "magnet:?".toList ++ rest := by
  rw [SourceKind.of] at magnet
  split at magnet
  · rename_i marked
    obtain ⟨rest, split⟩ := List.isPrefixOf_iff_prefix.mp (Bool.and_eq_true_iff.mp marked).1
    exact ⟨rest, split.symm⟩
  · cases magnet

/-- Behind the scheme nothing can keep a magnet link from being read: no authority follows, and what does not count
is left out. -/
theorem MagnetLink.parse?_of_magnet {text : String} (magnet : SourceKind.of text = .magnet) :
    ∃ link, MagnetLink.parse? text = some link := by
  obtain ⟨rest, written⟩ := SourceKind.head_of_magnet magnet
  obtain ⟨query, cleaned, -⟩ := Uri.clean_append MagnetLink.head_visible rest
  exact ⟨_, MagnetLink.parse?_of_clean ((congrArg Uri.clean written).trans cleaned)⟩

namespace Submission

variable {s : Submission}

theorem acceptance_of_magnet (magnet : SourceKind.of s.request.source = .magnet) :
    ∃ link, MagnetLink.parse? s.request.source = some link ∧
      s.acceptance = .accepted s.id s.request.source link.displayName := by
  obtain ⟨link, parsed⟩ := MagnetLink.parse?_of_magnet magnet
  have source : s.source = .magnet s.request.source := by rw [Submission.source, Request.route, magnet]
  refine ⟨link, parsed, ?_⟩
  rw [acceptance, source, Source.link?, parsed, Option.bind_some]

theorem acceptance_of_direct (direct : SourceKind.of s.request.source = .direct) :
    s.acceptance = .accepted s.id s.request.source none := by
  have source : s.source = .direct s.request.source s.request.cookies := by
    rw [Submission.source, Request.route, direct]
  rw [acceptance, source, Source.link?, Option.bind_none]

end Submission

namespace Desk

/-- In every run each submission is first announced with the name of its magnet link if it is one, and without a
name otherwise; no later event about it has a name to show. -/
theorem run_hints (bus : Bus Event) (ms : List Move) :
    (∀ text, SourceKind.of text = .magnet → ∃ link, MagnetLink.parse? text = some link) ∧
    ∀ (i : Nat) (s : Submission), ((Desk.new bus).run ms).submissions[i]? = some s →
      ∃ hint later,
        (((Desk.new bus).run ms).eventsOf i).map Posted.content = .accepted s.id s.request.source hint :: later ∧
        (∀ event ∈ later, event.isTerminal = true) ∧
        match SourceKind.of s.request.source with
        | .magnet => ∃ link, MagnetLink.parse? s.request.source = some link ∧ hint = link.displayName
        | .direct => hint = none := by
  refine ⟨fun text => MagnetLink.parse?_of_magnet, fun i s found => ?_⟩
  have events := eventsOf_eq_events (run_submissions_sound bus ms i s found)
  have ends : ∀ event ∈ (s.task.outcome?.map (·.event s.id)).toList, event.isTerminal = true := by
    intro event member
    obtain ⟨o, -, rfl⟩ := Option.map_eq_some_iff.mp (Option.mem_toList.mp member)
    exact Outcome.event_isTerminal s.id o
  cases kind : SourceKind.of s.request.source with
  | magnet =>
    obtain ⟨link, parsed, accepted⟩ := Submission.acceptance_of_magnet kind
    exact ⟨link.displayName, _, accepted ▸ events, ends, link, parsed, rfl⟩
  | direct => exact ⟨none, _, Submission.acceptance_of_direct kind ▸ events, ends, rfl⟩

/-- Without a topic a text is an address, even one that can be read as a magnet link with a name. -/
example : SourceKind.of "magnet:?dn=a" = .direct ∧ MagnetLink.parse? "magnet:?dn=a" = some ⟨none, some "a", []⟩ := by
  decide

end Desk

end TorrentAdmission
