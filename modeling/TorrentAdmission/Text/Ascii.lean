/-!
# ASCII letters

Folding of the letters `A` to `Z`, which leaves every other character alone.
-/

namespace TorrentAdmission.Text

def lowerAscii (c : Char) : Char :=
  if 'A' ≤ c ∧ c ≤ 'Z' then Char.ofNat (c.toNat + 32) else c

def toLowerAscii (s : String) : String :=
  .ofList (s.toList.map lowerAscii)

def isAsciiLetter (c : Char) : Bool :=
  decide ('a' ≤ c ∧ c ≤ 'z') || decide ('A' ≤ c ∧ c ≤ 'Z')

def isAsciiDigit (c : Char) : Bool :=
  decide ('0' ≤ c ∧ c ≤ '9')

end TorrentAdmission.Text
