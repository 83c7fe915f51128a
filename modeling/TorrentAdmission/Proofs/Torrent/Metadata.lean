import TorrentAdmission.Proofs.Text.Blank
import TorrentAdmission.Torrent.Prefetched

/-!
# Metadata that can be used

What a backend has fetched can be used if it names a hash and its metadata are bytes. `Prefetched.Usable`
says so of the answer itself, and `Prefetched.usable_iff` that a lookup makes the same of it.
-/

namespace TorrentAdmission

/-- The backend has named a hash, and the metadata are these bytes. -/
structure Prefetched.Usable (p : Prefetched) (bytes : List UInt8) : Prop where
  hash : ∃ c ∈ p.infoHash.toList, Text.isBlank c = false
  decodes : Text.Base64.decode? (Text.trimChars p.metadata.toList) = some bytes
  nonempty : bytes ≠ []

theorem InfoHash.ofReported_ok {reported : String} :
    (∃ hash, ofReported reported = .ok hash) ↔ ∃ c ∈ reported.toList, Text.isBlank c = false := by
  have empty : (Text.trim reported).isEmpty = true ↔ ∀ c ∈ reported.toList, Text.isBlank c = true := by
    rw [← Text.trimChars_eq_nil, Text.trim]
    simp
  unfold ofReported
  dsimp only
  cases blank : (Text.trim reported).isEmpty with
  | true =>
    have all := empty.mp blank
    simpa using all
  | false =>
    have some : ¬ ∀ c ∈ reported.toList, Text.isBlank c = true := by
      rw [← empty, blank]
      exact Bool.false_ne_true
    simpa using some

theorem Prefetched.bytes_ok {p : Prefetched} {bytes : List UInt8} : p.bytes = .ok bytes ↔
    Text.Base64.decode? (Text.trimChars p.metadata.toList) = some bytes ∧ bytes ≠ [] := by
  unfold Prefetched.bytes
  split
  · rename_i undecodable
    simp [undecodable]
  · rename_i nothing
    simp +contextual [nothing]
  · rename_i decoded other same
    rw [same]
    constructor
    · rintro ⟨⟩
      exact ⟨rfl, other⟩
    · rintro ⟨⟨⟩, -⟩
      rfl

theorem Prefetched.usable_iff {p : Prefetched} {bytes : List UInt8} :
    p.Usable bytes ↔ (∃ hash, InfoHash.ofReported p.infoHash = .ok hash) ∧ p.bytes = .ok bytes := by
  rw [InfoHash.ofReported_ok, Prefetched.bytes_ok]
  exact ⟨fun usable => ⟨usable.hash, usable.decodes, usable.nonempty⟩,
    fun ⟨hash, decodes, nonempty⟩ => ⟨hash, decodes, nonempty⟩⟩

end TorrentAdmission
