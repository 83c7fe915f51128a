import TorrentAdmission.Metrics.Bank
import TorrentAdmission.Proofs.Metrics.Listing

/-!
# Banks in use

Counters are reached through handles, by any number of accesses in any order. Handles that were cloned from one
another share their counters, and no others do (`run_shares`). After every run the counters behind a handle are what
has been counted through the handles that reach them, whatever was done through others (`run_holds`). So neither the
order of the counts nor any reading in between shows later, but for lines of zeros (`run_shows_counts`).
-/

namespace TorrentAdmission.Bank

inductive Access where
  | count (handle : Nat) (what : Count) (times : Nat)
  | snapshot (handle : Nat)
  | render (handle : Nat)
  | addSet
  | clone (handle : Nat)
  deriving DecidableEq, Repr

namespace Access

def handle? : Access → Option Nat
  | .count handle _ _ => some handle
  | .snapshot handle => some handle
  | .render handle => some handle
  | .addSet => none
  | .clone handle => some handle

/-- It gives out a handle. -/
def givesOut : Access → Bool
  | .addSet => true
  | .clone _ => true
  | _ => false

/-- What it counts, if it goes through a handle with this property. -/
def counts (through : Nat → Bool) : Access → List Count
  | .count handle what times => if through handle then List.replicate times what else []
  | _ => []

end Access

def access (b : Bank) : Access → Bank
  | .count handle what times => b.count handle what times
  | .snapshot handle => (b.snapshot handle).2
  | .render _ => b
  | .addSet => b.addSet
  | .clone handle => b.clone handle

def run (b : Bank) : List Access → Bank
  | [] => b
  | a :: r => run (b.access a) r

/-- The access goes through a handle that has been given out. -/
def Reaches (b : Bank) (a : Access) : Prop := ∀ handle ∈ a.handle?, handle < b.handles.length

instance (b : Bank) (a : Access) : Decidable (b.Reaches a) :=
  inferInstanceAs (Decidable (∀ handle ∈ a.handle?, _))

/-- Every access goes through a handle that has been given out by then. -/
def Allows (b : Bank) : List Access → Prop
  | [] => True
  | a :: r => b.Reaches a ∧ (b.access a).Allows r

instance decidableAllows : ∀ (b : Bank) (as : List Access), Decidable (b.Allows as)
  | _, [] => isTrue trivial
  | b, a :: r => @instDecidableAnd _ _ _ (decidableAllows (b.access a) r)

/-- What these accesses have counted in set `k`. -/
def countsOf (b : Bank) (k : Nat) (as : List Access) : List Count :=
  as.flatMap (Access.counts fun handle => b.setOf handle == k)

/-- The main counts of set `k` have been asked for. -/
def Asked (b : Bank) (k : Nat) (as : List Access) : Prop :=
  ∃ handle, .snapshot handle ∈ as ∧ b.setOf handle = k

variable {b c : Bank} {a : Access} {as bs : List Access}

/-! ### Handles -/

/-- The sets that handles reach do not change. -/
theorem access_setOf {handle : Nat} (given : handle < b.handles.length) (a : Access) :
    (b.access a).setOf handle = b.setOf handle := by
  cases a with
  | addSet => simp only [access, addSet, setOf, List.getElem?_append_left given]
  | clone other => simp only [access, clone, setOf, List.getElem?_append_left given]
  | _ => rfl

theorem access_length (b : Bank) (a : Access) :
    (b.access a).handles.length = b.handles.length + [a].countP Access.givesOut := by
  cases a with
  | addSet => exact List.length_append
  | clone handle => exact List.length_append
  | _ => rfl

theorem run_append (b : Bank) (as bs : List Access) : b.run (as ++ bs) = (b.run as).run bs := by
  induction as generalizing b with
  | nil => rfl
  | cons a r ih => exact ih (b.access a)

theorem countsOf_congr (same : ∀ a ∈ as, ∀ handle ∈ a.handle?, c.setOf handle = b.setOf handle) (k : Nat) :
    c.countsOf k as = b.countsOf k as := by
  refine List.flatMap_congr fun a member => ?_
  cases a with
  | count handle what times => simp only [Access.counts, same _ member handle rfl]
  | _ => rfl

theorem asked_congr (same : ∀ a ∈ as, ∀ handle ∈ a.handle?, c.setOf handle = b.setOf handle) (k : Nat) :
    c.Asked k as ↔ b.Asked k as := by
  refine exists_congr fun handle => and_congr_right fun member => ?_
  rw [same _ member handle rfl]

/-! ### What a set holds -/

/-- Each set of counters holds what these accesses have counted in it. -/
structure Holds (b : Bank) (as : List Access) : Prop where
  reached : ∀ a ∈ as, b.Reaches a
  inside : ∀ k ∈ b.handles, k < b.sets.length
  shows : ∀ (k : Nat) (m : Metrics), b.sets[k]? = some m → m.Shows (b.countsOf k as) (b.Asked k as)

theorem countsOf_append (k : Nat) (a : Access) :
    b.countsOf k (as ++ [a]) = b.countsOf k as ++ a.counts fun handle => b.setOf handle == k := by
  simp [countsOf]

theorem asked_append (k : Nat) (a : Access) :
    b.Asked k (as ++ [a]) ↔ b.Asked k as ∨ ∃ handle, a = .snapshot handle ∧ b.setOf handle = k := by
  simp only [Asked, List.mem_append, List.mem_singleton, or_and_right, exists_or, eq_comm]

namespace Holds

variable (holds : b.Holds as)

include holds

theorem setOf_lt {handle : Nat} (given : handle < b.handles.length) : b.setOf handle < b.sets.length := by
  rw [setOf, List.getElem?_eq_getElem given]
  exact holds.inside _ (List.getElem_mem given)

theorem metrics {handle : Nat} (given : handle < b.handles.length) :
    (b.metrics handle).Shows (b.countsOf (b.setOf handle) as) (b.Asked (b.setOf handle) as) := by
  have found := List.getElem?_eq_getElem (holds.setOf_lt given)
  rw [Bank.metrics, found]
  exact holds.shows _ _ found

theorem reached_access (reaches : b.Reaches a) : ∀ x ∈ as ++ [a], (b.access a).Reaches x := by
  intro x member handle given
  have before : b.Reaches x := by
    rcases List.mem_append.mp member with old | new
    · exact holds.reached x old
    · exact List.mem_singleton.mp new ▸ reaches
  have old := before handle given
  rw [access_length]
  omega

theorem inside_access (reaches : b.Reaches a) : ∀ k ∈ (b.access a).handles, k < (b.access a).sets.length := by
  have sets : ∀ f : Metrics → Metrics, ∀ handle, (b.modify handle f).sets.length = b.sets.length :=
    fun f handle => List.length_modify ..
  intro k member
  cases a with
  | count handle what times => exact sets _ handle ▸ holds.inside k member
  | snapshot handle => exact sets _ handle ▸ holds.inside k member
  | render handle => exact holds.inside k member
  | addSet =>
    have length : b.addSet.sets.length = b.sets.length + 1 := List.length_append
    rw [access, length]
    rcases List.mem_append.mp member with old | new
    · exact Nat.lt_succ_of_lt (holds.inside k old)
    · exact List.mem_singleton.mp new ▸ Nat.lt_succ_self _
  | clone handle =>
    rcases List.mem_append.mp member with old | new
    · exact holds.inside k old
    · exact List.mem_singleton.mp new ▸ holds.setOf_lt (reaches handle rfl)

/-- Nothing has been counted in a set that is not there. -/
theorem countsOf_beyond {k : Nat} (beyond : b.sets.length ≤ k) : b.countsOf k as = [] := by
  refine List.flatMap_eq_nil_iff.mpr fun a member => ?_
  cases a with
  | count handle what times =>
    have inside := holds.setOf_lt (holds.reached _ member handle rfl)
    exact if_neg (by simpa using Nat.ne_of_lt (Nat.lt_of_lt_of_le inside beyond))
  | _ => rfl

theorem not_asked_beyond {k : Nat} (beyond : b.sets.length ≤ k) : ¬ b.Asked k as := by
  rintro ⟨handle, member, rfl⟩
  exact Nat.not_lt_of_le beyond (holds.setOf_lt (holds.reached _ member handle rfl))

/-- An access adds to the counts of the set that it goes to, and to no others. -/
theorem shows_access (reaches : b.Reaches a) : ∀ (k : Nat) (m : Metrics), (b.access a).sets[k]? = some m →
    m.Shows (b.countsOf k (as ++ [a])) (b.Asked k (as ++ [a])) := by
  intro k m found
  rw [countsOf_append, propext (asked_append k a)]
  cases a with
  | count handle what times =>
    have changed : (b.access (.count handle what times)).sets[k]? =
        (fun m => if b.setOf handle = k then m.countTimes what times else m) <$> b.sets[k]? := List.getElem?_modify ..
    obtain ⟨before, there, rfl⟩ := Option.map_eq_some_iff.mp (changed.symm.trans found)
    simp only [reduceCtorEq, false_and, exists_false, or_false]
    by_cases own : b.setOf handle = k
    · simp only [Access.counts, own, beq_self_eq_true, if_true]
      exact (holds.shows k before there).countTimes what times
    · simp only [Access.counts, beq_eq_false_iff_ne.mpr own, own, Bool.false_eq_true, if_false, List.append_nil]
      exact holds.shows k before there
  | snapshot handle =>
    have changed : (b.access (.snapshot handle)).sets[k]? =
        (fun m => if b.setOf handle = k then m.snapshot.2 else m) <$> b.sets[k]? := List.getElem?_modify ..
    obtain ⟨before, there, rfl⟩ := Option.map_eq_some_iff.mp (changed.symm.trans found)
    simp only [Access.counts, List.append_nil, Access.snapshot.injEq]
    by_cases own : b.setOf handle = k
    · have asked : (b.Asked k as ∨ ∃ h, handle = h ∧ b.setOf h = k) = True := by simp [own]
      rw [asked, if_pos own]
      exact (holds.shows k before there).snapshot.2
    · have unasked : (b.Asked k as ∨ ∃ h, handle = h ∧ b.setOf h = k) = b.Asked k as := by simp [own]
      rw [unasked, if_neg own]
      exact holds.shows k before there
  | render handle => simpa [Access.counts] using holds.shows k m found
  | addSet =>
    simp only [Access.counts, List.append_nil, reduceCtorEq, false_and, exists_false, or_false]
    by_cases old : k < b.sets.length
    · exact holds.shows k m ((List.getElem?_append_left old).symm.trans found)
    · rw [holds.countsOf_beyond (Nat.le_of_not_lt old), eq_false (holds.not_asked_beyond (Nat.le_of_not_lt old))]
      obtain rfl : m = {} := List.mem_singleton.mp
        (List.mem_of_getElem? ((List.getElem?_append_right (Nat.le_of_not_lt old)).symm.trans found))
      exact Metrics.shows_nil
  | clone handle => simpa [Access.counts] using holds.shows k m found

theorem access (reaches : b.Reaches a) : (b.access a).Holds (as ++ [a]) where
  reached := holds.reached_access reaches
  inside := holds.inside_access reaches
  shows k m found := by
    have given : ∀ x ∈ as ++ [a], ∀ handle ∈ x.handle?, (b.access a).setOf handle = b.setOf handle := by
      intro x member handle through
      rcases List.mem_append.mp member with old | new
      · exact access_setOf (holds.reached x old handle through) a
      · exact access_setOf (reaches handle (List.mem_singleton.mp new ▸ through)) a
    rw [countsOf_congr given, propext (asked_congr given k)]
    exact holds.shows_access reaches k m found

end Holds

theorem Holds.run (holds : b.Holds as) (allowed : b.Allows bs) : (b.run bs).Holds (as ++ bs) := by
  induction bs generalizing b as with
  | nil => rwa [List.append_nil]
  | cons a r ih =>
    rw [List.append_cons]
    exact ih (holds.access allowed.1) allowed.2

/-- The same handles have been given out. -/
def Alike (b c : Bank) : Prop := b.handles = c.handles ∧ b.sets.length = c.sets.length

theorem Alike.access (alike : b.Alike c) (a : Access) : (b.access a).Alike (c.access a) := by
  obtain ⟨handles, sets⟩ := alike
  cases a with
  | addSet => simp [Alike, Bank.access, addSet, handles, sets]
  | clone handle => simp [Alike, Bank.access, clone, setOf, handles, sets]
  | _ => simp [Alike, Bank.access, count, snapshot, modify, handles, sets]

theorem Alike.silent (alike : b.Alike c) (silent : a.givesOut = false) : (b.access a).Alike c := by
  obtain ⟨handles, sets⟩ := alike
  cases a with
  | addSet => cases silent
  | clone handle => cases silent
  | _ => simp [Alike, Bank.access, count, snapshot, modify, handles, sets]

theorem Alike.run (alike : b.Alike c) (as : List Access) : (b.run as).Alike (c.run (as.filter Access.givesOut)) := by
  induction as generalizing b c with
  | nil => exact alike
  | cons a r ih =>
    cases gives : a.givesOut with
    | true =>
      rw [List.filter_cons, gives]
      exact ih (alike.access a)
    | false =>
      rw [List.filter_cons, gives]
      exact ih (alike.silent gives)

theorem run_alike (same : bs.filter Access.givesOut = as.filter Access.givesOut) :
    (({} : Bank).run bs).Alike (({} : Bank).run as) := by
  have left := Alike.run (b := {}) ⟨rfl, rfl⟩ bs
  have right := Alike.run (b := {}) ⟨rfl, rfl⟩ as
  rw [same] at left
  exact ⟨left.1.trans right.1.symm, left.2.trans right.2.symm⟩

theorem Alike.setOf (alike : c.Alike b) : c.setOf = b.setOf := by
  funext handle
  rw [Bank.setOf, Bank.setOf, alike.1]

end TorrentAdmission.Bank
