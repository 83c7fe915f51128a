import TorrentAdmission.Uri.Query

/-!
# URIs that start with a query

Behind the scheme and its colon a question mark starts the query at once, and nothing else can be wrong with
such a URI: `parse?_query`. What does not count in a text is no part of such a front: `clean_append`.
-/

namespace TorrentAdmission.Uri

open Text

theorem isMargin_of_visible {c : Char} (visible : 0x20 < c.toNat) : ¬ isMargin c = true := fun margin =>
  Nat.not_le_of_lt visible (of_decide_eq_true margin)

/-- What stands at the front of a text counts if it has no blanks and control characters, whatever follows. -/
theorem clean_append {first : Char} {front : List Char} (visible : ∀ c ∈ first :: front, 0x20 < c.toNat)
    (rest : List Char) : ∃ more, clean (first :: front ++ rest) = first :: front ++ more ∧ more.Sublist rest := by
  have start : ∀ t : List Char, (first :: front ++ t).dropWhile isMargin = first :: front ++ t := fun t =>
    List.dropWhile_cons_of_neg (isMargin_of_visible (visible first List.mem_cons_self))
  have behind : (first :: front).reverse.dropWhile isMargin = (first :: front).reverse := by
    obtain ⟨c, r, written⟩ := List.exists_cons_of_ne_nil (mt List.reverse_eq_nil_iff.mp (List.cons_ne_nil first front))
    have member : c ∈ first :: front := List.mem_reverse.mp (written ▸ List.mem_cons_self)
    rw [written, List.dropWhile_cons_of_neg (isMargin_of_visible (visible c member))]
  have trimmed : ((first :: front ++ rest).reverse.dropWhile isMargin).reverse =
      first :: front ++ (rest.reverse.dropWhile isMargin).reverse := by
    rw [List.reverse_append, List.dropWhile_append, behind]
    split
    · rename_i none
      rw [List.isEmpty_iff.mp none, List.reverse_reverse, List.reverse_nil, List.append_nil]
    · rw [List.reverse_append, List.reverse_reverse]
  have kept : (first :: front).filter (fun c => c != '\t' && c != '\n' && c != '\r') = first :: front := by
    refine List.filter_eq_self.mpr fun c member => ?_
    have apart : ∀ d : Char, d.toNat ≤ 0x20 → (c != d) = true := by
      intro d low
      refine bne_iff_ne.mpr ?_
      rintro rfl
      exact Nat.not_le_of_lt (visible c member) low
    rw [apart '\t' (by decide), apart '\n' (by decide), apart '\r' (by decide)]
    rfl
  refine ⟨_, by rw [clean, start, trimmed, List.filter_append, kept], ?_⟩
  have shorter := (List.dropWhile_sublist isMargin (l := rest.reverse)).reverse
  rw [List.reverse_reverse] at shorter
  exact List.filter_sublist.trans shorter

/-- In a text without blanks and control characters everything counts. -/
theorem clean_visible {s : List Char} (visible : ∀ c ∈ s, 0x20 < c.toNat) : clean s = s := by
  cases s with
  | nil => rfl
  | cons first front =>
    obtain ⟨more, cleaned, short⟩ := clean_append visible []
    rwa [List.sublist_nil.mp short, List.append_nil] at cleaned

theorem scheme?_append {first : Char} {scheme rest : List Char} (letter : isAsciiLetter first = true)
    (inner : ∀ c ∈ scheme, isSchemeChar c = true) :
    scheme? (first :: scheme ++ ':' :: rest) = some ((first :: scheme).map lowerAscii, rest) := by
  have all : ∀ c ∈ first :: scheme, isSchemeChar c = true := by
    intro c member
    rcases List.mem_cons.mp member with rfl | later
    · simp [isSchemeChar, letter]
    · exact inner c later
  have colon : ¬ isSchemeChar ':' = true := by decide
  have taken : (first :: scheme ++ ':' :: rest).takeWhile isSchemeChar = first :: scheme := by
    rw [List.takeWhile_append_of_pos all, List.takeWhile_cons_of_neg colon, List.append_nil]
  have dropped : (first :: scheme ++ ':' :: rest).dropWhile isSchemeChar = ':' :: rest := by
    rw [List.dropWhile_append_of_pos all, List.dropWhile_cons_of_neg colon]
  rw [List.cons_append] at taken dropped ⊢
  rw [scheme?, if_pos letter, dropped, taken]
  rfl

theorem parse?_query {text : String} {first : Char} {scheme rest : List Char} (letter : isAsciiLetter first = true)
    (inner : ∀ c ∈ scheme, isSchemeChar c = true)
    (cleaned : clean text.toList = first :: scheme ++ ':' :: '?' :: rest) :
    parse? text = some ⟨.ofList ((first :: scheme).map lowerAscii), some (rest.takeWhile (· != '#'))⟩ := by
  rw [parse?, cleaned, scheme?_append letter inner]
  rfl

end TorrentAdmission.Uri
