import TorrentAdmission.Text.CharSet

/-!
# Patterns

Regular expressions whose alternatives are tried in order. `Pattern.ends` lists where a match that
starts at a given spot can end, the preferred end first; `Pattern.endsText` asks whether the first
match in a text is one that goes up to the text's end.
-/

namespace TorrentAdmission.Text

/-- A condition on a place between two characters. -/
inductive Anchor where
  | textStart
  | textEnd
  | lineStart
  | lineEnd
  /-- As `lineStart` where a carriage return, alone or with a line feed, ends a line as well. -/
  | lineStartAnyBreak
  | lineEndAnyBreak
  | wordBoundary
  | insideOrOutsideWord
  | wordStart
  | wordEnd
  deriving DecidableEq, Repr

inductive Pattern where
  | empty
  | char (set : CharSet)
  | anchor (a : Anchor)
  | seq (p q : Pattern)
  | alt (p q : Pattern)
  /-- Any number of times, as often as possible if `greedy` and as rarely as possible otherwise. -/
  | star (greedy : Bool) (p : Pattern)
  deriving DecidableEq, Repr

/-- A place in a text: the character before it and the text behind it. -/
structure Spot where
  before : Option Char
  rest : List Char
  deriving DecidableEq, Repr

namespace Anchor

def isWord (c : Option Char) : Bool := c.any CharSet.word.contains

def holds (a : Anchor) (s : Spot) : Bool :=
  let after := s.rest.head?
  match a with
  | .textStart => s.before.isNone
  | .textEnd => after.isNone
  | .lineStart => s.before.isNone || s.before = some '\n'
  | .lineEnd => after.isNone || after = some '\n'
  | .lineStartAnyBreak =>
    s.before.isNone || s.before = some '\n' || (s.before = some '\r' && after ≠ some '\n')
  | .lineEndAnyBreak =>
    after.isNone || after = some '\r' || (after = some '\n' && s.before ≠ some '\r')
  | .wordBoundary => isWord s.before != isWord after
  | .insideOrOutsideWord => isWord s.before == isWord after
  | .wordStart => !isWord s.before && isWord after
  | .wordEnd => isWord s.before && !isWord after

end Anchor

namespace Pattern

def plus (greedy : Bool) (p : Pattern) : Pattern := .seq p (.star greedy p)

def optional (greedy : Bool) (p : Pattern) : Pattern :=
  if greedy then .alt p .empty else .alt .empty p

/-- Goes on from `s` by at most `fuel` steps. A step that consumes nothing is the last one. -/
def iterate (greedy : Bool) (step : Spot → List Spot) : (fuel : Nat) → Spot → List Spot
  | 0, s => [s]
  | fuel + 1, s =>
    let more := (step s).flatMap fun t =>
      if t.rest.length < s.rest.length then iterate greedy step fuel t else [t]
    (if greedy then more ++ [s] else s :: more).eraseDups

/-- Where a match that starts at a spot can end, the preferred end first. -/
def ends : Pattern → Spot → List Spot
  | .empty, s => [s]
  | .char set, s =>
    match s.rest with
    | [] => []
    | c :: r => if set.contains c then [⟨some c, r⟩] else []
  | .anchor a, s => if a.holds s then [s] else []
  | .seq p q, s => ((ends p s).flatMap (ends q)).eraseDups
  | .alt p q, s => (ends p s ++ ends q s).eraseDups
  | .star greedy p, s => iterate greedy (ends p) (s.rest.length + 1) s

/-- Where the match that starts first ends, if there is one at or behind a spot. -/
def firstEnd? (p : Pattern) (before : Option Char) : List Char → Option Spot
  | [] => (p.ends ⟨before, []⟩).head?
  | c :: r => (p.ends ⟨before, c :: r⟩).head? <|> firstEnd? p (some c) r

def endsText (p : Pattern) (text : List Char) : Bool :=
  (p.firstEnd? none text).any fun s => s.rest.isEmpty

end Pattern

end TorrentAdmission.Text
