/-!
# Tables of code points

A property of characters as the closed ranges of the code points that have it. The ranges ascend and
do not overlap, so that only the last one that starts at or below a code point can have it.
-/

namespace TorrentAdmission.Text

abbrev Ranges := Array (Nat × Nat)

namespace Ranges

/-- The number of ranges up to `hi` that start at or below `n`, if `lo` of them are known to. -/
def countBelow (table : Ranges) (n : Nat) : (fuel lo hi : Nat) → Nat
  | 0, lo, _ => lo
  | fuel + 1, lo, hi =>
    if hi ≤ lo then lo
    else
      let mid := (lo + hi) / 2
      match table[mid]? with
      | some r => if r.1 ≤ n then countBelow table n fuel (mid + 1) hi else countBelow table n fuel lo mid
      | none => lo

def has (table : Ranges) (n : Nat) : Bool :=
  match table.countBelow n table.size 0 table.size with
  | 0 => false
  | k + 1 => table[k]?.any fun r => decide (n ≤ r.2)

end Ranges

end TorrentAdmission.Text
