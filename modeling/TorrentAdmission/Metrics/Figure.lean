import TorrentAdmission.Double

/-!
# Figures

Counters are collected as doubles, so what is written for a whole number is the double nearest to it: as few digits
as tell that double from all others, and zeros for the rest of its whole part.
-/

namespace TorrentAdmission.Figure

open Magnitude (spacing roundDiv)

/-- The double nearest to a whole number, of two that are equally near the even one. -/
def nearest (n : Nat) : Nat := spacing n * roundDiv n (spacing n)

/-- The number to which the double `v` is nearest that ends in the most zeros, up to so many. Of two such numbers
it is the one nearer to `v`. -/
def rounded (v : Nat) : (zeros : Nat) → Nat
  | 0 => v
  | zeros + 1 =>
    let step := Nat.pow 10 (zeros + 1)
    let below := v / step * step
    let above := below + step
    if nearest below = v then
      if nearest above = v ∧ above - v ≤ v - below then above else below
    else if nearest above = v then above
    else rounded v zeros

/-- The number that is written for a whole number. -/
def shown (n : Nat) : Nat :=
  let v := nearest n
  rounded v v.log2

def shownInt : Int → Int
  | .ofNat n => shown n
  | .negSucc n => -(shown (n + 1))

end TorrentAdmission.Figure
