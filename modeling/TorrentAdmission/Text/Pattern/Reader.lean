import TorrentAdmission.Text.Ascii
import TorrentAdmission.Text.Blank
import TorrentAdmission.Text.Hex
import TorrentAdmission.Text.Pattern

/-!
# Reading patterns

`Pattern.parse?` reads a regular expression. Literals, classes, groups, flags, alternatives and the
three marks of repetition are known. What would need tables of Unicode is refused: properties, the
classes of digits, blanks and words, boundaries of words, and ignoring case, each of them unless the
expression restricts itself to ASCII. A count of repetitions in braces is refused as well.
-/

namespace TorrentAdmission.Text.Pattern

/-- What an expression has switched on or off. -/
structure Flags where
  ignoreCase : Bool := false
  multiLine : Bool := false
  dotAll : Bool := false
  /-- Repetitions are rare where they would be frequent, and the other way round. -/
  swapGreed : Bool := false
  ignoreBlanks : Bool := false
  anyBreak : Bool := false
  unicode : Bool := true
  deriving DecidableEq, Repr

/-- What the part of an expression read so far has left behind. -/
structure Context where
  flags : Flags := {}
  names : List String := []
  deriving DecidableEq, Repr

def behindComment (s : List Char) : List Char :=
  (s.dropWhile (· != '\n')).drop 1

/-- Skips blanks and comments where they do not count. -/
def skipBlanks (flags : Flags) (s : List Char) : List Char :=
  if flags.ignoreBlanks then go (s.length + 1) s else s
where
  go : Nat → List Char → List Char
  | 0, s => s
  | fuel + 1, s =>
    match s.dropWhile isBlank with
    | '#' :: r => go fuel (behindComment r)
    | r => r

/-! ### Single characters -/

inductive Escape where
  | char (c : Char)
  | set (s : CharSet)
  | anchor (a : Anchor)

/-- The characters that mean something else without a backslash. -/
def isMeta (c : Char) : Bool :=
  "\\.+*?()|[]\x7b\x7d^$#&-~".toList.contains c

/-- Characters other than letters and digits may have a backslash in front of them. -/
def isEscapable (c : Char) : Bool :=
  isMeta c ||
    (decide (c.toNat < 0x80) && !isAsciiLetter c && !isAsciiDigit c && c != '<' && c != '>')

def hexChar? (count : Nat) (s : List Char) : Option (Char × List Char) := do
  let digits := s.take count
  if digits.length < count then none
  let n ← digits.foldlM (fun n c => (Hex.value? c).map fun v => 16 * n + v.val) 0
  if h : n.isValidChar then some (Char.ofNatAux n h, s.drop count) else none

/-- The set, where the expression restricts itself to ASCII. -/
def asciiSet? (flags : Flags) (s : CharSet) : Option Escape :=
  if flags.unicode then none else some (.set s)

def asciiAnchor? (flags : Flags) (a : Anchor) : Option Escape :=
  if flags.unicode then none else some (.anchor a)

def letterEscape? (flags : Flags) : Char → Option Escape
  | 'a' => some (.char '\x07')
  | 'f' => some (.char '\x0c')
  | 't' => some (.char '\t')
  | 'n' => some (.char '\n')
  | 'r' => some (.char '\r')
  | 'v' => some (.char '\x0b')
  | 'A' => some (.anchor .textStart)
  | 'z' => some (.anchor .textEnd)
  | 'b' => asciiAnchor? flags .wordBoundary
  | 'B' => asciiAnchor? flags .insideOrOutsideWord
  | '<' => asciiAnchor? flags .wordStart
  | '>' => asciiAnchor? flags .wordEnd
  | 'd' => asciiSet? flags .digit
  | 'D' => asciiSet? flags (.compl .digit)
  | 's' => asciiSet? flags .space
  | 'S' => asciiSet? flags (.compl .space)
  | 'w' => asciiSet? flags .word
  | 'W' => asciiSet? flags (.compl .word)
  | _ => none

def escape? (flags : Flags) : List Char → Option (Escape × List Char)
  | [] => none
  | 'x' :: r => (hexChar? 2 r).map fun t => (.char t.1, t.2)
  | 'u' :: r => (hexChar? 4 r).map fun t => (.char t.1, t.2)
  | 'U' :: r => (hexChar? 8 r).map fun t => (.char t.1, t.2)
  | c :: r => if isEscapable c then some (.char c, r) else (letterEscape? flags c).map fun e => (e, r)

/-- One character of a set. Restricted to ASCII, a set must not have anything else. -/
def ofSet? (flags : Flags) (s : CharSet) : Option Pattern :=
  if flags.unicode then if flags.ignoreCase then none else some (.char s)
  else
    let s := if flags.ignoreCase then s.foldAscii else s
    if s.isAscii then some (.char s) else none

def ofChar? (flags : Flags) (c : Char) : Option Pattern :=
  if flags.ignoreCase then
    if flags.unicode then none
    else if isAsciiLetter c then ofSet? flags (.single c)
    else some (.char (.single c))
  else some (.char (.single c))

/-- Any character, which may be a line break or not. -/
def dot? (flags : Flags) : Option Pattern :=
  if !flags.unicode then none
  else if flags.dotAll then some (.char (.compl .empty))
  else if flags.anyBreak then some (.char (.compl (.union (.single '\n') (.single '\r'))))
  else some (.char (.compl (.single '\n')))

def startAnchor (flags : Flags) : Anchor :=
  if !flags.multiLine then .textStart
  else if flags.anyBreak then .lineStartAnyBreak
  else .lineStart

def endAnchor (flags : Flags) : Anchor :=
  if !flags.multiLine then .textEnd
  else if flags.anyBreak then .lineEndAnyBreak
  else .lineEnd

/-! ### Classes -/

/-- The set that a class name in brackets and colons stands for, read behind its bracket. -/
def namedSet? : List Char → Option (CharSet × List Char)
  | ':' :: r =>
    let (negated, r) := match r with
      | '^' :: r => (true, r)
      | r => (false, r)
    match r.dropWhile (· != ':') with
    | ':' :: ']' :: rest =>
      (CharSet.named? (.ofList (r.takeWhile (· != ':')))).map fun s =>
        (if negated then s.compl else s, rest)
    | _ => none
  | _ => none

/-- A character or set inside a class. -/
def classItem? (flags : Flags) : List Char → Option (Escape × List Char)
  | [] => none
  | '\\' :: r =>
    match escape? flags r with
    | some (.anchor _, _) => none
    | e => e
  | c :: r => if flags.unicode || decide (c.toNat < 0x80) then some (.char c, r) else none

def classRange? (flags : Flags) (s : List Char) : Option (CharSet × List Char) := do
  let (first, r) ← classItem? flags s
  let alone : CharSet := match first with
    | .char c => .single c
    | .set t => t
    | .anchor _ => .empty
  match skipBlanks flags r with
  | '-' :: t =>
    let t := skipBlanks flags t
    if t.head? = some ']' ∨ t.head? = some '-' then return (alone, r)
    else
      match first, ← classItem? flags t with
      | .char low, (.char high, t) =>
        if low ≤ high then return (.range low.toNat high.toNat, t) else none
      | _, _ => none
  | _ => return (alone, r)

/-- The dashes at the start of a class, or the bracket that stands there for itself. -/
def classStart (flags : Flags) (s : List Char) : CharSet × List Char :=
  match s with
  | '-' :: _ => (.single '-', skipBlanks flags (s.dropWhile (· == '-')))
  | ']' :: r => (.single ']', r)
  | _ => (.empty, s)

mutual

def classSet? (flags : Flags) : (fuel : Nat) → List Char → Option (CharSet × List Char)
  | 0, _ => none
  | fuel + 1, s => do
    let (negated, s) := match skipBlanks flags s with
      | '^' :: r => (true, skipBlanks flags r)
      | r => (false, r)
    let (start, s) := classStart flags s
    let (set, r) ← classItems? flags fuel id start s
    let set := if flags.ignoreCase then set.foldAscii else set
    return (if negated then set.compl else set, r)

/-- Reads items of a class up to its closing bracket. `finish` takes the set of the items to the set
of the class, which depends on the operators in front of the items. -/
def classItems? (flags : Flags) :
    (fuel : Nat) → (finish : CharSet → CharSet) → CharSet → List Char → Option (CharSet × List Char)
  | 0, _, _, _ => none
  | fuel + 1, finish, set, s =>
    match skipBlanks flags s with
    | [] => none
    | ']' :: r => some (finish set, r)
    | '&' :: '&' :: r => classItems? flags fuel (.inter (finish set)) .empty r
    | '-' :: '-' :: r => classItems? flags fuel (.diff (finish set)) .empty r
    | '~' :: '~' :: r => classItems? flags fuel (.symmDiff (finish set)) .empty r
    | '[' :: r =>
      match namedSet? r with
      | some (t, r) => classItems? flags fuel finish (.union set t) r
      | none => do
        let (t, r) ← classSet? flags fuel r
        classItems? flags fuel finish (.union set t) r
    | r => do
      let (t, r) ← classRange? flags r
      classItems? flags fuel finish (.union set t) r

end

/-! ### Groups -/

/-- Switches the flag with a letter on or off. -/
def Flags.set? (flags : Flags) (on : Bool) : Char → Option Flags
  | 'i' => some { flags with ignoreCase := on }
  | 'm' => some { flags with multiLine := on }
  | 's' => some { flags with dotAll := on }
  | 'U' => some { flags with swapGreed := on }
  | 'u' => some { flags with unicode := on }
  | 'R' => some { flags with anyBreak := on }
  | 'x' => some { flags with ignoreBlanks := on }
  | _ => none

/-- Switches flags by their letters, those behind a dash off. No letter comes twice. -/
def Flags.setAll? (flags : Flags) (seen : List Char) : List Char → Option Flags
  | [] => if seen.head? = some '-' then none else some flags
  | c :: r =>
    if seen.contains c then none
    else if c = '-' then flags.setAll? (c :: seen) r
    else do (← flags.set? (!seen.contains '-') c).setAll? (c :: seen) r

/-- What stands between the opening bracket of a group and its content. -/
inductive GroupHead where
  | content (context : Context)
  /-- There is no content: the flags are for what follows. -/
  | flags (context : Context)

def isNameChar (c : Char) : Bool :=
  isAsciiLetter c || isAsciiDigit c || "_.[]".toList.contains c

/-- Reads the name of a group. No two groups have one name. -/
def groupName? (context : Context) (s : List Char) : Option (GroupHead × List Char) :=
  let name := s.takeWhile (· != '>')
  match name, s.dropWhile (· != '>') with
  | c :: n, _ :: r =>
    if (isAsciiLetter c || c == '_') && n.all isNameChar && !context.names.contains (.ofList name) then
      some (.content { context with names := .ofList name :: context.names }, r)
    else none
  | _, _ => none

/-- Reads the head of a group behind its opening bracket. Looking ahead or behind is refused. -/
def groupHead? (context : Context) (s : List Char) : Option (GroupHead × List Char) :=
  match skipBlanks context.flags s with
  | '?' :: 'P' :: '<' :: r => groupName? context r
  | '?' :: '<' :: r => if r.head? = some '=' ∨ r.head? = some '!' then none else groupName? context r
  | '?' :: r =>
    let letters := r.takeWhile fun c => c != ':' && c != ')'
    match r.dropWhile fun c => c != ':' && c != ')' with
    | ':' :: rest => (context.flags.setAll? [] letters).map fun flags =>
        (.content { context with flags }, rest)
    | ')' :: rest =>
      if letters = [] then none
      else (context.flags.setAll? [] letters).map fun flags => (.flags { context with flags }, rest)
    | _ => none
  | r => some (.content context, r)

/-! ### Expressions -/

def isRepetition (c : Char) : Bool := "*+?\x7b".toList.contains c

def repeated? (flags : Flags) : (fuel : Nat) → Pattern → List Char → Option (Pattern × List Char)
  | 0, _, _ => none
  | fuel + 1, p, s =>
    match skipBlanks flags s with
    | c :: r =>
      if isRepetition c then
        let (few, r) := match r with
          | '?' :: r => (true, r)
          | r => (false, r)
        let greedy := few == flags.swapGreed
        match c with
        | '*' => repeated? flags fuel (.star greedy p) r
        | '+' => repeated? flags fuel (.plus greedy p) r
        | '?' => repeated? flags fuel (.optional greedy p) r
        | _ => none
      else some (p, c :: r)
    | [] => some (p, [])

/-! The following functions read from a text and give back what follows the part they have read. A
call on text that is not shorter comes at most three deep, so three units of fuel for every character
are enough. -/

mutual

def readAlternatives : (fuel : Nat) → Context → List Char → Option (Pattern × Context × List Char)
  | 0, _, _ => none
  | fuel + 1, context, s => do
    let (p, context, r) ← readSequence fuel context s
    match r with
    | '|' :: r =>
      let (q, context, r) ← readAlternatives fuel context r
      return (.alt p q, context, r)
    | r => return (p, context, r)

def readSequence : (fuel : Nat) → Context → List Char → Option (Pattern × Context × List Char)
  | 0, _, _ => none
  | fuel + 1, context, s =>
    match skipBlanks context.flags s with
    | [] => some (.empty, context, [])
    | ')' :: r => some (.empty, context, ')' :: r)
    | '|' :: r => some (.empty, context, '|' :: r)
    | s => do
      let (item, context, r) ← readItem fuel context s
      match item with
      | none =>
        if (skipBlanks context.flags r).head?.any isRepetition then none
        else readSequence fuel context r
      | some p =>
        let (p, r) ← repeated? context.flags (r.length + 1) p r
        let (q, context, r) ← readSequence fuel context r
        return (.seq p q, context, r)

/-- Reads one item; there is none where flags are switched. -/
def readItem : (fuel : Nat) → Context → List Char → Option (Option Pattern × Context × List Char)
  | 0, _, _ => none
  | fuel + 1, context, s =>
    let flags := context.flags
    match s with
    | [] => none
    | '(' :: r => do
      match ← groupHead? context r with
      | (.flags context, r) => return (none, context, r)
      | (.content inner, r) =>
        let (p, inner, r) ← readAlternatives fuel inner r
        match r with
        | ')' :: r => return (some p, { context with names := inner.names }, r)
        | _ => none
    | '[' :: r => do
      let (set, r) ← classSet? flags (2 * r.length + 2) r
      return (some (← ofSet? flags set), context, r)
    | '.' :: r => do return (some (← dot? flags), context, r)
    | '^' :: r => some (some (.anchor (startAnchor flags)), context, r)
    | '$' :: r => some (some (.anchor (endAnchor flags)), context, r)
    | '\\' :: r => do
      match ← escape? flags r with
      | (.char c, r) => return (some (← ofChar? flags c), context, r)
      | (.set t, r) => return (some (← ofSet? flags t), context, r)
      | (.anchor a, r) => return (some (.anchor a), context, r)
    | c :: r => do
      if isRepetition c then none
      return (some (← ofChar? flags c), context, r)

end

/-- The pattern that a text is, if it is well formed. -/
def parse? (s : List Char) : Option Pattern :=
  match readAlternatives (3 * s.length + 3) {} s with
  | some (p, _, []) => some p
  | _ => none

end TorrentAdmission.Text.Pattern
