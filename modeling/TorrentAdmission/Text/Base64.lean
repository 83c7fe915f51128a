/-!
# Base64

The standard alphabet with padding. Reading accepts exactly what writing produces: the last group is
filled up with `=`, and the bits that no byte uses are zero.
-/

namespace TorrentAdmission.Text.Base64

def symbol (n : Nat) : Char :=
  if n < 26 then Char.ofNat ('A'.toNat + n)
  else if n < 52 then Char.ofNat ('a'.toNat + (n - 26))
  else if n < 62 then Char.ofNat ('0'.toNat + (n - 52))
  else if n = 62 then '+'
  else '/'

def value? (c : Char) : Option Nat :=
  if 'A' ≤ c ∧ c ≤ 'Z' then some (c.toNat - 'A'.toNat)
  else if 'a' ≤ c ∧ c ≤ 'z' then some (c.toNat - 'a'.toNat + 26)
  else if '0' ≤ c ∧ c ≤ '9' then some (c.toNat - '0'.toNat + 52)
  else if c = '+' then some 62
  else if c = '/' then some 63
  else none

def encode : List UInt8 → List Char
  | [] => []
  | [a] =>
    let n := a.toNat * 16
    [symbol (n / 64), symbol (n % 64), '=', '=']
  | [a, b] =>
    let n := (a.toNat * 256 + b.toNat) * 4
    [symbol (n / 4096), symbol (n / 64 % 64), symbol (n % 64), '=']
  | a :: b :: c :: r =>
    let n := (a.toNat * 256 + b.toNat) * 256 + c.toNat
    symbol (n / 262144) :: symbol (n / 4096 % 64) :: symbol (n / 64 % 64) :: symbol (n % 64) :: encode r

def oneByte? (w x : Char) : Option (List UInt8) := do
  let n := 64 * (← value? w) + (← value? x)
  if n % 16 = 0 then some [.ofNat (n / 16)] else none

def twoBytes? (w x y : Char) : Option (List UInt8) := do
  let n := 4096 * (← value? w) + 64 * (← value? x) + (← value? y)
  if n % 4 = 0 then some [.ofNat (n / 1024), .ofNat (n / 4 % 256)] else none

def threeBytes? (w x y z : Char) : Option (List UInt8) := do
  let n := 262144 * (← value? w) + 4096 * (← value? x) + 64 * (← value? y) + (← value? z)
  some [.ofNat (n / 65536), .ofNat (n / 256 % 256), .ofNat (n % 256)]

def decode? : List Char → Option (List UInt8)
  | [] => some []
  | w :: x :: y :: z :: r =>
    if z = '=' then
      if r ≠ [] then none
      else if y = '=' then oneByte? w x
      else twoBytes? w x y
    else do
      let front ← threeBytes? w x y z
      return front ++ (← decode? r)
  | _ => none

example : encode [0x66, 0x6f] = ['Z', 'm', '8', '='] := by decide
example : decode? ['Z', 'm', '9', '='] = none := by decide

end TorrentAdmission.Text.Base64
