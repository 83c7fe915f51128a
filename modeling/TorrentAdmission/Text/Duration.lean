import TorrentAdmission.Text.Decimal

/-!
# Durations in words

A whole number of milliseconds as people write it: seconds with up to three decimal places once a
second is reached, milliseconds below that, and `0ns` for no time at all.
-/

namespace TorrentAdmission.Text.Duration

/-- Three decimal places without the zeros at their end, behind a point unless none is left. -/
def thousandths (n : Nat) : List Char :=
  match (Decimal.padded 3 n).reverse.dropWhile (· == '0') with
  | [] => []
  | r => '.' :: r.reverse

def chars (ms : Nat) : List Char :=
  if 1000 ≤ ms then Decimal.digits (ms / 1000) ++ thousandths (ms % 1000) ++ ['s']
  else if 0 < ms then Decimal.digits ms ++ ['m', 's']
  else ['0', 'n', 's']

def render (ms : Nat) : String :=
  .ofList (chars ms)

end TorrentAdmission.Text.Duration
