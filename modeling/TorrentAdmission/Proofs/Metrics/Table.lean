import Mathlib.Data.List.Sort
import TorrentAdmission.Proofs.Metrics.Tally

/-!
# Counters as tables

A counter is a table with one line for each label that it knows. A set of counters that starts at zero is
determined by how often each label has been counted and by whether the main counts have been asked for:
`Shows.unique`.
-/

namespace TorrentAdmission

namespace Counter

variable {c d : Counter} {label other : String} {n : Nat} {number : String → Nat} {Known : String → Prop}

def labels (c : Counter) : List String := c.map Prod.fst

theorem mem_labels_add : other ∈ (c.add label n).labels ↔ other = label ∨ other ∈ c.labels := by
  induction c with
  | nil => simp [add, labels]
  | cons head rest ih =>
    obtain ⟨l, k⟩ := head
    unfold add
    split
    · rename_i same
      simp [labels, same]
    · split
      · simp [labels]
      · simp only [labels, List.map_cons, List.mem_cons] at ih ⊢
        rw [ih, or_left_comm]

theorem count_of_mem (ascending : c.Ascending) (member : (label, n) ∈ c) : c.count label = n := by
  induction c with
  | nil => cases member
  | cons head rest ih =>
    obtain ⟨below, sorted⟩ := List.pairwise_cons.mp ascending
    rcases List.mem_cons.mp member with rfl | later
    · exact if_pos rfl
    · have different : head.1 ≠ label := String.ne_of_lt (below (label, n) later)
      rw [count, if_neg different]
      exact ih sorted later

theorem mem_iff (ascending : c.Ascending) : (label, n) ∈ c ↔ label ∈ c.labels ∧ n = c.count label := by
  constructor
  · intro member
    exact ⟨List.mem_map_of_mem member, (count_of_mem ascending member).symm⟩
  · rintro ⟨known, rfl⟩
    obtain ⟨⟨_, k⟩, member, rfl⟩ := List.mem_map.mp known
    exact (count_of_mem ascending member).symm ▸ member

/-- A table of the known labels with their numbers. -/
structure Lists (c : Counter) (number : String → Nat) (Known : String → Prop) : Prop where
  ascending : c.Ascending
  known : ∀ label, label ∈ c.labels ↔ Known label
  counts : ∀ label, c.count label = number label

namespace Lists

theorem lines (lists : c.Lists number Known) (label : String) (n : Nat) :
    (label, n) ∈ c ↔ Known label ∧ n = number label := by
  rw [mem_iff lists.ascending, lists.known, lists.counts]

theorem nil : Lists [] (fun _ => 0) fun _ => False :=
  ⟨.nil, fun _ => iff_of_false List.not_mem_nil id, fun _ => rfl⟩

theorem add (lists : c.Lists number Known) (label : String) (n : Nat) :
    (c.add label n).Lists (fun l => number l + if label = l then n else 0) fun l => l = label ∨ Known l where
  ascending := lists.ascending.add label n
  known l := by rw [mem_labels_add, lists.known]
  counts l := by rw [count_add lists.ascending, lists.counts]

theorem congr {number' : String → Nat} {Known' : String → Prop} (lists : c.Lists number Known)
    (numbers : ∀ l, number' l = number l) (same : ∀ l, Known' l ↔ Known l) : c.Lists number' Known' :=
  ⟨lists.ascending, fun l => (lists.known l).trans (same l).symm, fun l => (lists.counts l).trans (numbers l).symm⟩

theorem nodup (ascending : c.Ascending) : c.Nodup :=
  ascending.imp fun before same => String.ne_of_lt before (congrArg Prod.fst same)

/-- A table that knows more labels has the same lines among more. -/
theorem sublist {More : String → Prop} (fewer : c.Lists number Known) (lists : d.Lists number More)
    (more : ∀ l, Known l → More l) : c.Sublist d := by
  have subset : c ⊆ d := by
    rintro ⟨label, n⟩ member
    obtain ⟨known, value⟩ := (fewer.lines label n).mp member
    exact (lists.lines label n).mpr ⟨more label known, value⟩
  have antisymm : Std.Antisymm fun a b : String × Nat => a.1 < b.1 :=
    ⟨fun _ _ before behind => absurd before (String.lt_asymm behind)⟩
  exact List.sublist_of_subperm_of_pairwise (List.subperm_of_subset (nodup fewer.ascending) subset) fewer.ascending
    lists.ascending

theorem unique (lists : c.Lists number Known) (also : d.Lists number Known) : c = d :=
  (lists.sublist also fun _ => id).antisymm (also.sublist lists fun _ => id)

end Lists

end Counter

/-! ### The four tables -/

/-- The families of counts. -/
inductive Family where
  | submissions
  | outcomes
  | winners
  | events
  deriving DecidableEq

def Family.count : Family → String → Count
  | .submissions => .submission
  | .outcomes => .outcome
  | .winners => .winner
  | .events => .event

theorem Count.family (what : Count) : ∃ (f : Family) (label : String), what = f.count label := by
  cases what with
  | submission kind => exact ⟨.submissions, kind, rfl⟩
  | outcome label => exact ⟨.outcomes, label, rfl⟩
  | winner path => exact ⟨.winners, path, rfl⟩
  | event kind => exact ⟨.events, kind, rfl⟩

theorem Family.count_inj {f g : Family} {label other : String} :
    f.count label = g.count other ↔ f = g ∧ label = other := by
  cases f <;> cases g <;> simp [count]

namespace Metrics

def table (m : Metrics) : Family → Counter
  | .submissions => m.submissions
  | .outcomes => m.outcomes
  | .winners => m.winners
  | .events => m.events

/-- The label is one of the three main ones, and the main counts have been asked for. -/
def IsAsked (asked : Prop) : Family → String → Prop
  | .outcomes, label => asked ∧ label ∈ ["resolved", "failed", "cancelled"]
  | _, _ => False

/-- The counters are what these counts come to. The main counts may have been asked for in between. -/
structure Shows (m : Metrics) (counts : List Count) (asked : Prop) : Prop where
  tables : ∀ f, (m.table f).Lists (fun label => counts.count (f.count label))
    fun label => f.count label ∈ counts ∨ IsAsked asked f label
  inFlight : m.inFlight =
    ((counts.filterMap Count.submissionLabel?).length : Int) - (counts.filterMap Count.outcomeLabel?).length

theorem table_count (m : Metrics) (f g : Family) (label : String) :
    (m.count (g.count label)).table f = if g = f then (m.table f).add label 1 else m.table f := by
  cases f <;> cases g <;> rfl

theorem shows_nil : ({} : Metrics).Shows [] False where
  tables f := by
    have none : ∀ label, (f.count label ∈ ([] : List Count) ∨ IsAsked False f label) ↔ False := by
      intro label
      cases f <;> simp [IsAsked]
    cases f <;> exact Counter.Lists.nil.congr (fun _ => rfl) none
  inFlight := rfl

namespace Shows

variable {m other : Metrics} {counts more : List Count} {asked also : Prop}

theorem count (shows : m.Shows counts asked) (what : Count) : (m.count what).Shows (counts ++ [what]) asked where
  tables f := by
    obtain ⟨g, label, rfl⟩ := what.family
    rw [table_count]
    split
    · rename_i same
      subst same
      refine ((shows.tables g).add label 1).congr (fun l => ?_) fun l => ?_
      · simp only [List.count_append, List.count_singleton, beq_iff_eq, Family.count_inj, true_and]
      · simp only [List.mem_append, List.mem_singleton, Family.count_inj, true_and]
        rw [or_right_comm, or_comm (a := l = label), or_assoc]
    · rename_i different
      refine (shows.tables f).congr (fun l => ?_) fun l => ?_
      · simp [List.count_append, Family.count_inj, different]
      · simp [Family.count_inj, Ne.symm different]
  inFlight := by
    cases what <;>
      simp [Metrics.count, shows.inFlight, Count.submissionLabel?, Count.outcomeLabel?, List.filterMap_cons] <;> omega

theorem countTimes (shows : m.Shows counts asked) (what : Count) (times : Nat) :
    (m.countTimes what times).Shows (counts ++ List.replicate times what) asked := by
  induction times generalizing m counts with
  | zero => rwa [List.replicate_zero, List.append_nil]
  | succ n ih =>
    rw [List.replicate_succ, List.append_cons]
    exact ih (shows.count what)

/-- Asking for the main counts tells them, and makes their labels known. -/
theorem snapshot (shows : m.Shows counts asked) :
    m.snapshot.1 = ⟨m.inFlight, counts.count (.outcome "resolved"), counts.count (.outcome "failed"),
      counts.count (.outcome "cancelled")⟩ ∧ m.snapshot.2.Shows counts True := by
  have outcomes : m.snapshot.2.outcomes.Lists (fun label => counts.count (.outcome label))
      fun label => .outcome label ∈ counts ∨ IsAsked True .outcomes label := by
    have lists := (((shows.tables .outcomes).add "resolved" 0).add "failed" 0).add "cancelled" 0
    refine lists.congr (fun l => ?_) fun l => ?_
    · simp [Family.count]
    · simp only [IsAsked, Family.count, List.mem_cons, List.not_mem_nil]
      tauto
  refine ⟨?_, fun f => ?_, shows.inFlight⟩
  · rw [← outcomes.counts, ← outcomes.counts, ← outcomes.counts]
    rfl
  · cases f with
    | outcomes => exact outcomes
    | submissions => exact shows.tables .submissions
    | winners => exact shows.tables .winners
    | events => exact shows.tables .events

section
variable (shows : m.Shows counts asked) (others : other.Shows more also) (order : more.Perm counts)

include order others

theorem reordered (f : Family) : (other.table f).Lists (fun label => counts.count (f.count label))
    fun label => f.count label ∈ counts ∨ IsAsked also f label :=
  (others.tables f).congr (fun _ => (order.count_eq _).symm) fun _ => by rw [order.mem_iff]

include shows

/-- Having been asked makes a difference to one table only. -/
theorem eq_with_outcomes : other = { m with outcomes := other.outcomes } := by
  have submissions : other.submissions = m.submissions :=
    (others.reordered order .submissions).unique (shows.tables .submissions)
  have winners : other.winners = m.winners := (others.reordered order .winners).unique (shows.tables .winners)
  have events : other.events = m.events := (others.reordered order .events).unique (shows.tables .events)
  have inFlight : other.inFlight = m.inFlight := by
    rw [others.inFlight, shows.inFlight, (order.filterMap _).length_eq, (order.filterMap _).length_eq]
  rw [← submissions, ← winners, ← events, ← inFlight]

/-- The counters do not tell in which order the counts were made. -/
theorem unique (same : also ↔ asked) : other = m := by
  obtain rfl : also = asked := propext same
  have outcomes : other.outcomes = m.outcomes := (others.reordered order .outcomes).unique (shows.tables .outcomes)
  rw [shows.eq_with_outcomes others order, outcomes]

end

end Shows

end Metrics

end TorrentAdmission
