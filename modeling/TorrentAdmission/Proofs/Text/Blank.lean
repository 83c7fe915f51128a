import Mathlib.Data.List.TakeWhile
import TorrentAdmission.Text.Blank

/-!
# Trimmed texts

A text is its trimmed form with blanks at both ends. A text without blanks is the trimmed form of itself with any
blanks around it.
-/

namespace TorrentAdmission.Text

variable {s : List Char}

theorem trimChars_eq_nil : trimChars s = [] ↔ ∀ c ∈ s, isBlank c = true := by
  rw [trimChars, List.reverse_eq_nil_iff, List.dropWhile_eq_nil_iff]
  simp only [List.mem_reverse]
  constructor
  · intro blank c member
    rw [← List.takeWhile_append_dropWhile (p := isBlank) (l := s), List.mem_append] at member
    rcases member with front | rest
    · exact List.mem_takeWhile_imp front
    · exact blank c rest
  · intro blank c member
    exact blank c ((List.dropWhile_suffix isBlank).subset member)

theorem padded_trimChars (s : List Char) : ∃ before after, s = before ++ trimChars s ++ after ∧
    (∀ c ∈ before, isBlank c = true) ∧ ∀ c ∈ after, isBlank c = true := by
  refine ⟨s.takeWhile isBlank, ((s.dropWhile isBlank).reverse.takeWhile isBlank).reverse, ?_,
    fun c member => List.mem_takeWhile_imp member, fun c member => List.mem_takeWhile_imp (List.mem_reverse.mp member)⟩
  rw [trimChars, List.append_assoc, ← List.reverse_append, List.takeWhile_append_dropWhile, List.reverse_reverse,
    List.takeWhile_append_dropWhile]

theorem dropWhile_of_not_blank (solid : ∀ c ∈ s, isBlank c = false) : s.dropWhile isBlank = s := by
  refine List.dropWhile_eq_self_iff.mpr fun positive => ?_
  simp [solid _ (List.getElem_mem positive)]

theorem trimChars_padded {before core after : List Char} (front : ∀ c ∈ before, isBlank c = true)
    (solid : ∀ c ∈ core, isBlank c = false) (behind : ∀ c ∈ after, isBlank c = true) :
    trimChars (before ++ core ++ after) = core := by
  have ending : ∀ c ∈ after.reverse, isBlank c = true := fun c member => behind c (List.mem_reverse.mp member)
  have mirrored : ∀ c ∈ core.reverse, isBlank c = false := fun c member => solid c (List.mem_reverse.mp member)
  rw [trimChars, List.append_assoc, List.dropWhile_append_of_pos front, List.dropWhile_append,
    dropWhile_of_not_blank solid]
  split
  · rename_i nothing
    rw [List.dropWhile_eq_nil_iff.mpr behind, List.isEmpty_iff.mp nothing]
    rfl
  · rw [List.reverse_append, List.dropWhile_append_of_pos ending, dropWhile_of_not_blank mirrored,
      List.reverse_reverse]

theorem trimChars_of_not_blank (solid : ∀ c ∈ s, isBlank c = false) : trimChars s = s := by
  have trimmed := trimChars_padded (List.forall_mem_nil _) solid (List.forall_mem_nil _)
  rwa [List.nil_append, List.append_nil] at trimmed

end TorrentAdmission.Text
