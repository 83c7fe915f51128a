import TorrentAdmission.Text.Ascii
import TorrentAdmission.Text.Decimal
import TorrentAdmission.Text.Hex

/-!
# IPv6 addresses

Which texts are addresses: eight groups of up to four hexadecimal digits between colons, where `::`
stands once for any number of zero groups and an address of version 4 may take the place of the last
two groups.
-/

namespace TorrentAdmission.Uri.Ipv6

open Text

/-- A number from 0 to 255 without a zero in front. -/
def isOctet (s : List Char) : Bool :=
  match s with
  | [] => false
  | c :: r => s.all isAsciiDigit && (c != '0' || r.isEmpty) && decide (Decimal.valueFrom 0 s ≤ 255)

/-- Exactly `count` octets with points between them. -/
def areOctets : (count : Nat) → List Char → Bool
  | 0, _ => false
  | 1, s => isOctet s
  | count + 2, s =>
    match s.dropWhile (· != '.') with
    | _ :: r => isOctet (s.takeWhile (· != '.')) && areOctets (count + 1) r
    | [] => false

def isHexDigit (c : Char) : Bool :=
  (Hex.value? c).isSome

/-- The rest of an address after `groups` groups; `mayShorten` says that `::` may still come. -/
def isRest : (fuel groups : Nat) → (mayShorten : Bool) → List Char → Bool
  | 0, _, _, _ => false
  | fuel + 1, groups, mayShorten, s =>
    if s.isEmpty then !mayShorten || groups == 8
    else if 8 ≤ groups then false
    else if s.head? = some ':' then mayShorten && isRest fuel (groups + 1) false (s.drop 1)
    else
      let digits := (s.take 4).takeWhile isHexDigit
      match s.drop digits.length with
      | [] => !mayShorten || groups + 1 == 8
      | '.' :: _ =>
        !digits.isEmpty && decide (groups ≤ 6) && areOctets 4 s && (!mayShorten || groups + 2 == 8)
      | ':' :: r => !r.isEmpty && isRest fuel (groups + 1) mayShorten r
      | _ => false

def isAddress (s : List Char) : Bool :=
  match s with
  | ':' :: ':' :: r => isRest (r.length + 1) 1 false r
  | ':' :: _ => false
  | s => isRest (s.length + 1) 0 true s

end TorrentAdmission.Uri.Ipv6
