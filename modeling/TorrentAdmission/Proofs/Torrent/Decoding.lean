import TorrentAdmission.Proofs.Text.Base64
import TorrentAdmission.Proofs.Torrent.Metadata

/-!
# What fetched metadata decode to

Fetched metadata are some bytes if they are the base64 of these and nothing else, and else the backend is told
why not: `Prefetched.bytes_exactly`.
-/

namespace TorrentAdmission

namespace Prefetched

open Text

variable {p : Prefetched}

theorem bytes_missing : p.bytes = .error (.unusable p.infoHash Failure.noMetadata) ↔
    Base64.decode? (trimChars p.metadata.toList) = some [] := by
  have other : Failure.notBase64 ≠ Failure.noMetadata := by decide
  unfold Prefetched.bytes
  split
  · rename_i undecodable
    simp [undecodable, other]
  · rename_i nothing
    simp [nothing]
  · rename_i bytes nonempty decoded
    simpa [decoded] using nonempty

theorem bytes_malformed : p.bytes = .error (.unusable p.infoHash Failure.notBase64) ↔
    Base64.decode? (trimChars p.metadata.toList) = none := by
  have other : Failure.noMetadata ≠ Failure.notBase64 := by decide
  unfold Prefetched.bytes
  split
  · rename_i undecodable
    simp [undecodable]
  · rename_i nothing
    simp [nothing, other]
  · rename_i bytes nonempty decoded
    simp [decoded]

/-- Metadata are read as bytes exactly if there are some and, without the blanks around it, the text is
their base64. A blank text has no metadata, every other text no base64; both errors name the hash as it was
reported. -/
theorem bytes_exactly (infoHash metadata : String) :
    let p : Prefetched := ⟨infoHash, metadata⟩
    let text := trimChars metadata.toList
    (∀ bytes, p.bytes = .ok bytes ↔ bytes ≠ [] ∧ text = Base64.encode bytes) ∧
    (p.bytes = .error (.unusable infoHash "backend returned no metadata") ↔ text = []) ∧
    (p.bytes = .error (.unusable infoHash "metadata is not valid base64") ↔
      text ≠ [] ∧ ¬ ∃ bytes, bytes ≠ [] ∧ text = Base64.encode bytes) := by
  intro p text
  refine ⟨fun bytes => ?_, ?_, ?_⟩
  · rw [bytes_ok, Base64.decode?_eq_some, and_comm]
  · exact bytes_missing.trans Base64.decode?_eq_some
  · refine bytes_malformed.trans ⟨fun malformed => ⟨fun nothing => ?_, ?_⟩, fun ⟨nonempty, other⟩ => ?_⟩
    · have read : Base64.decode? text = some [] := Base64.decode?_eq_some.mpr nothing
      cases malformed.symm.trans read
    · rintro ⟨bytes, -, written⟩
      cases malformed.symm.trans (Base64.decode?_eq_some.mpr written)
    · refine Option.eq_none_iff_forall_ne_some.mpr fun bytes read => ?_
      have written : text = Base64.encode bytes := Base64.decode?_eq_some.mp read
      refine other ⟨bytes, ?_, written⟩
      rintro rfl
      exact nonempty written

end Prefetched

end TorrentAdmission
