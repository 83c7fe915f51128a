/-!
# Blank characters

The white space characters of Unicode and the trimming of a text at both ends.
-/

namespace TorrentAdmission.Text

/-- The white space code points, as closed ranges in ascending order. -/
def blankRanges : List (Nat × Nat) :=
  [(0x09, 0x0d), (0x20, 0x20), (0x85, 0x85), (0xa0, 0xa0), (0x1680, 0x1680), (0x2000, 0x200a),
   (0x2028, 0x2029), (0x202f, 0x202f), (0x205f, 0x205f), (0x3000, 0x3000)]

def isBlank (c : Char) : Bool :=
  blankRanges.any fun r => decide (r.1 ≤ c.toNat ∧ c.toNat ≤ r.2)

def trimChars (s : List Char) : List Char :=
  ((s.dropWhile isBlank).reverse.dropWhile isBlank).reverse

def trim (s : String) : String :=
  .ofList (trimChars s.toList)

/-- A text is blank when trimming leaves nothing of it. -/
def isBlankText (s : String) : Bool :=
  s.toList.all isBlank

end TorrentAdmission.Text
