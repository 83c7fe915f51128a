import TorrentAdmission.Metrics.Basic

/-!
# What counters come to

Counters that start at zero say, after any counts, how often each label of each family has been counted,
and how many more submissions than outcomes: `tallies`.
-/

namespace TorrentAdmission

namespace Counter

variable {label other : String} {n : Nat} {c : Counter}

def Ascending (c : Counter) : Prop := c.Pairwise fun a b => a.1 < b.1

theorem mem_add {e : String × Nat} (member : e ∈ c.add label n) : e.1 = label ∨ e ∈ c := by
  induction c with
  | nil => exact Or.inl (congrArg Prod.fst (List.mem_singleton.mp member))
  | cons head rest ih =>
    obtain ⟨l, k⟩ := head
    unfold add at member
    split at member
    · rename_i same
      rcases List.mem_cons.mp member with rfl | later
      · exact Or.inl same
      · exact Or.inr (List.mem_cons_of_mem _ later)
    · split at member
      · rcases List.mem_cons.mp member with rfl | later
        · exact Or.inl rfl
        · exact Or.inr later
      · rcases List.mem_cons.mp member with rfl | later
        · exact Or.inr List.mem_cons_self
        · exact (ih later).imp_right (List.mem_cons_of_mem _)

theorem Ascending.add (ascending : c.Ascending) (label : String) (n : Nat) : (c.add label n).Ascending := by
  induction c with
  | nil => exact List.pairwise_singleton _ _
  | cons head rest ih =>
    obtain ⟨l, k⟩ := head
    obtain ⟨below, sorted⟩ := List.pairwise_cons.mp ascending
    unfold Counter.add
    split
    · exact List.pairwise_cons.mpr ⟨below, sorted⟩
    · rename_i different
      split
      · rename_i less
        refine List.pairwise_cons.mpr ⟨fun e member => ?_, ascending⟩
        rcases List.mem_cons.mp member with rfl | later
        · exact less
        · exact String.lt_trans less (below e later)
      · rename_i notLess
        have greater : l < label := Std.lt_of_le_of_ne (String.not_lt.mp notLess) different
        refine List.pairwise_cons.mpr ⟨fun e member => ?_, ih sorted⟩
        rcases mem_add member with same | old
        · rwa [same]
        · exact below e old

/-- A label below all that are there has not been counted. -/
theorem count_of_below (below : ∀ e ∈ c, label < e.1) : c.count label = 0 := by
  induction c with
  | nil => rfl
  | cons head rest ih =>
    have different : head.1 ≠ label := by
      intro same
      exact String.lt_irrefl label (same ▸ below head List.mem_cons_self)
    rw [count, if_neg different]
    exact ih fun e member => below e (List.mem_cons_of_mem _ member)

theorem count_add (ascending : c.Ascending) :
    (c.add label n).count other = c.count other + if label = other then n else 0 := by
  induction c with
  | nil =>
    simp only [add, count]
    split <;> simp
  | cons head rest ih =>
    obtain ⟨l, k⟩ := head
    obtain ⟨below, sorted⟩ := List.pairwise_cons.mp ascending
    unfold add
    split
    · rename_i same
      subst same
      simp only [count]
      split <;> simp
    · rename_i different
      split
      · rename_i less
        by_cases own : label = other
        · have absent : count other ((l, k) :: rest) = 0 := by
            refine count_of_below fun e member => ?_
            rw [← own]
            rcases List.mem_cons.mp member with rfl | later
            · exact less
            · exact String.lt_trans less (below e later)
          rw [count, if_pos own, absent, if_pos own, Nat.zero_add]
        · rw [count, if_neg own, if_neg own, Nat.add_zero]
      · simp only [count]
        split
        · rename_i found
          rw [if_neg fun own => different (found.trans own.symm), Nat.add_zero]
        · exact ih sorted

theorem total_add (c : Counter) (label : String) (n : Nat) : (c.add label n).total = c.total + n := by
  induction c with
  | nil => simp [add, total]
  | cons head rest ih =>
    obtain ⟨l, k⟩ := head
    unfold add
    split
    · simp only [total]
      omega
    · split
      · simp only [total]
        omega
      · simp only [total, ih]
        omega

end Counter

/-! ### The four families -/

namespace Count

def submissionLabel? : Count → Option String
  | .submission kind => some kind
  | _ => none

def outcomeLabel? : Count → Option String
  | .outcome label => some label
  | _ => none

def winnerLabel? : Count → Option String
  | .winner path => some path
  | _ => none

def eventLabel? : Count → Option String
  | .event kind => some kind
  | _ => none

end Count

/-- The counter says how often each of these labels has been counted. -/
structure Counter.Tells (c : Counter) (labels : List String) : Prop where
  ascending : c.Ascending
  counts : ∀ label, c.count label = labels.count label
  total : c.total = labels.length

theorem Counter.tells_nil : Counter.Tells [] [] := ⟨.nil, fun _ => rfl, rfl⟩

theorem Counter.Tells.add {c : Counter} {labels : List String} (tells : c.Tells labels) (label : String) :
    (c.add label 1).Tells (labels ++ [label]) := by
  obtain ⟨ascending, counts, total⟩ := tells
  refine ⟨ascending.add label 1, fun other => ?_, ?_⟩
  · rw [count_add ascending, counts, List.count_append, List.count_singleton]
    simp only [beq_iff_eq]
  · rw [total_add, total, List.length_append, List.length_singleton]

namespace Metrics

/-- The counters are what these counts come to. -/
structure Tallies (m : Metrics) (counts : List Count) : Prop where
  submissions : m.submissions.Tells (counts.filterMap Count.submissionLabel?)
  outcomes : m.outcomes.Tells (counts.filterMap Count.outcomeLabel?)
  winners : m.winners.Tells (counts.filterMap Count.winnerLabel?)
  events : m.events.Tells (counts.filterMap Count.eventLabel?)
  inFlight : m.inFlight = (m.submissions.total : Int) - m.outcomes.total

theorem Tallies.count {m : Metrics} {counts : List Count} (tallies : m.Tallies counts) (what : Count) :
    (m.count what).Tallies (counts ++ [what]) := by
  obtain ⟨submissions, outcomes, winners, events, inFlight⟩ := tallies
  have kept : ∀ {c : Counter} {label? : Count → Option String}, c.Tells (counts.filterMap label?) →
      label? what = none → c.Tells ((counts ++ [what]).filterMap label?) := by
    intro c label? tells other
    rwa [List.filterMap_append, List.filterMap_cons, other, List.filterMap_nil, List.append_nil]
  have added : ∀ {c : Counter} {label? : Count → Option String} {label : String},
      c.Tells (counts.filterMap label?) → label? what = some label →
      (c.add label 1).Tells ((counts ++ [what]).filterMap label?) := by
    intro c label? label tells own
    rw [List.filterMap_append, List.filterMap_cons, own, List.filterMap_nil]
    exact tells.add label
  cases what with
  | submission kind =>
    refine ⟨added submissions rfl, kept outcomes rfl, kept winners rfl, kept events rfl, ?_⟩
    simp only [Metrics.count, Counter.total_add, inFlight]
    omega
  | outcome label =>
    refine ⟨kept submissions rfl, added outcomes rfl, kept winners rfl, kept events rfl, ?_⟩
    simp only [Metrics.count, Counter.total_add, inFlight]
    omega
  | winner path => exact ⟨kept submissions rfl, kept outcomes rfl, added winners rfl, kept events rfl, inFlight⟩
  | event kind => exact ⟨kept submissions rfl, kept outcomes rfl, kept winners rfl, added events rfl, inFlight⟩

theorem Tallies.counts {m : Metrics} {before : List Count} (tallies : m.Tallies before) (more : List Count) :
    (more.foldl Metrics.count m).Tallies (before ++ more) := by
  induction more generalizing m before with
  | nil => rwa [List.append_nil]
  | cons what rest ih =>
    rw [List.append_cons]
    exact ih (tallies.count what)

theorem tallies (counts : List Count) : (counts.foldl Metrics.count {}).Tallies counts :=
  have start : Tallies {} [] :=
    ⟨Counter.tells_nil, Counter.tells_nil, Counter.tells_nil, Counter.tells_nil, rfl⟩
  start.counts counts

end Metrics

end TorrentAdmission
