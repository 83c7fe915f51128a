/-!
# Doubles

Finite numbers of floating point with 53 significant bits. A magnitude is a whole number of units, the
unit being the least positive magnitude, two to the power of -1074; so products and quotients are
rounded in whole numbers. Every operation gives the magnitude nearest to its exact result, and of two
that are equally near the even one.
-/

namespace TorrentAdmission

abbrev Magnitude := Nat

namespace Magnitude

def one : Magnitude := Nat.pow 2 1074

/-- The least power of two that is beyond all finite magnitudes. -/
def infinity : Magnitude := Nat.pow 2 2098

/-- How far apart magnitudes of about `n` units are: 53 bits tell them from one another. -/
def spacing (n : Nat) : Nat := Nat.pow 2 (n.log2 - 52)

/-- The whole number nearest to `num / den`, of two equally near ones the even one. -/
def roundDiv (num den : Nat) : Nat :=
  let floor := num / den
  let twice := 2 * (num % den)
  if twice < den then floor
  else if den < twice then floor + 1
  else floor + floor % 2

def nearest (num den : Nat) : Magnitude :=
  let s := spacing (num / den)
  s * roundDiv num (den * s)

def ofNat (n : Nat) : Magnitude := nearest (n * one) 1

def mul (a b : Magnitude) : Magnitude := nearest (a * b) one

def div (a b : Magnitude) : Magnitude := nearest (a * one) b

/-! ### Powers of ten -/

/-- The exponent of the greatest power of ten that is finite. -/
def topExponent : Nat := 308

def powerOfTen (k : Nat) : Magnitude := ofNat (Nat.pow 10 k)

/-- `a` divided by ten to the power of `k`, in as many steps as that takes. -/
def scaleDown (a : Magnitude) (k : Nat) : Magnitude :=
  if k ≤ topExponent then div a (powerOfTen k)
  else if a = 0 then 0
  else scaleDown (div a (powerOfTen topExponent)) (k - topExponent)
termination_by k
decreasing_by simp only [topExponent] at *; omega

/-- `a` times ten to the power of `k`, if that is finite. -/
def scaleUp? (a : Magnitude) (k : Nat) : Option Magnitude :=
  if a = 0 then some 0
  else if topExponent < k then none
  else
    let product := mul a (powerOfTen k)
    if product < infinity then some product else none

/-- Halves a number of units of `2 ^ -places` as long as it is even, and then writes it with that many
decimal places. -/
def decimalPlaces : (places units : Nat) → Nat × Nat
  | 0, n => (n, 0)
  | k + 1, n => if n % 2 = 0 then decimalPlaces k (n / 2) else (n * Nat.pow 5 (k + 1), k + 1)

end Magnitude

structure Double where
  negative : Bool
  magnitude : Magnitude
  deriving DecidableEq, Repr, Inhabited

namespace Double

/-- A whole number times a power of ten, if that is finite. The number is rounded first, and then the
result of every multiplication or division. -/
def ofDecimal? (negative : Bool) (digits : Nat) : (exponent : Int) → Option Double
  | .ofNat k => (Magnitude.scaleUp? (.ofNat digits) k).map fun magnitude => { negative, magnitude }
  | .negSucc k => some { negative, magnitude := .scaleDown (.ofNat digits) (k + 1) }

/-- The magnitude in decimal, exactly: its digits and how many of them are decimal places. -/
def toDecimal (d : Double) : Nat × Nat :=
  Magnitude.decimalPlaces 1074 d.magnitude

end Double

end TorrentAdmission
