/-!
# Sets of characters

Sets that a person writes down: ranges of code points, and what can be made of them by uniting,
intersecting and complementing. The named sets are those of ASCII.
-/

namespace TorrentAdmission.Text

inductive CharSet where
  | range (low high : Nat)
  | union (a b : CharSet)
  | inter (a b : CharSet)
  | compl (a : CharSet)
  deriving DecidableEq, Repr

namespace CharSet

def has (n : Nat) : CharSet → Bool
  | .range low high => decide (low ≤ n ∧ n ≤ high)
  | .union a b => a.has n || b.has n
  | .inter a b => a.has n && b.has n
  | .compl a => !a.has n

def contains (s : CharSet) (c : Char) : Bool := s.has c.toNat

def empty : CharSet := .range 1 0

def single (c : Char) : CharSet := .range c.toNat c.toNat

def ofRanges : List (Nat × Nat) → CharSet
  | [] => empty
  | [r] => .range r.1 r.2
  | r :: s => .union (.range r.1 r.2) (ofRanges s)

def diff (a b : CharSet) : CharSet := .inter a (.compl b)

def symmDiff (a b : CharSet) : CharSet := .union (diff a b) (diff b a)

/-- Every byte in the set is an ASCII character. -/
def isAscii (s : CharSet) : Bool :=
  (List.range 0x80).all fun i => !s.has (0x80 + i)

/-- The set with both cases of each ASCII letter of which it has one. -/
def foldAscii (s : CharSet) : CharSet :=
  (List.range 26).foldl (fun t i =>
    if s.has (0x41 + i) || s.has (0x61 + i) then
      .union t (.union (.range (0x41 + i) (0x41 + i)) (.range (0x61 + i) (0x61 + i)))
    else t) s

/-! ### Named sets -/

def digit : CharSet := .range 0x30 0x39

def word : CharSet := ofRanges [(0x30, 0x39), (0x41, 0x5a), (0x5f, 0x5f), (0x61, 0x7a)]

def space : CharSet := ofRanges [(0x09, 0x0d), (0x20, 0x20)]

/-- The ASCII characters that a class name stands for. -/
def named? : String → Option CharSet
  | "alnum" => some (ofRanges [(0x30, 0x39), (0x41, 0x5a), (0x61, 0x7a)])
  | "alpha" => some (ofRanges [(0x41, 0x5a), (0x61, 0x7a)])
  | "ascii" => some (.range 0 0x7f)
  | "blank" => some (ofRanges [(0x09, 0x09), (0x20, 0x20)])
  | "cntrl" => some (ofRanges [(0, 0x1f), (0x7f, 0x7f)])
  | "digit" => some digit
  | "graph" => some (.range 0x21 0x7e)
  | "lower" => some (.range 0x61 0x7a)
  | "print" => some (.range 0x20 0x7e)
  | "punct" => some (ofRanges [(0x21, 0x2f), (0x3a, 0x40), (0x5b, 0x60), (0x7b, 0x7e)])
  | "space" => some space
  | "upper" => some (.range 0x41 0x5a)
  | "word" => some word
  | "xdigit" => some (ofRanges [(0x30, 0x39), (0x41, 0x46), (0x61, 0x66)])
  | _ => none

end CharSet

end TorrentAdmission.Text
