import TorrentAdmission.Text.Ascii
import TorrentAdmission.Text.Decimal
import TorrentAdmission.Uri.Ipv6

/-!
# Scheme and query of a URI

`Uri.parse?` finds the scheme and the query of a URI. Control characters and spaces around it do not
count, and neither do tabs and line ends inside. The path can be anything; an authority behind `//`
has to be well formed.
-/

namespace TorrentAdmission

open Text

structure Uri where
  scheme : String
  query : Option (List Char)
  deriving DecidableEq, Repr

namespace Uri

def isMargin (c : Char) : Bool := decide (c.toNat ≤ 0x20)

/-- The text of a URI without what does not count. -/
def clean (s : List Char) : List Char :=
  (((s.dropWhile isMargin).reverse.dropWhile isMargin).reverse).filter fun c =>
    c != '\t' && c != '\n' && c != '\r'

def isSchemeChar (c : Char) : Bool :=
  isAsciiLetter c || isAsciiDigit c || c == '+' || c == '-' || c == '.'

/-- The scheme in lower case, and what follows its colon. -/
def scheme? (s : List Char) : Option (List Char × List Char) :=
  match s with
  | [] => none
  | c :: _ =>
    if isAsciiLetter c then
      match s.dropWhile isSchemeChar with
      | ':' :: r => some ((s.takeWhile isSchemeChar).map lowerAscii, r)
      | _ => none
    else none

def endsPart (c : Char) : Bool :=
  c == '?' || c == '#'

def endsAuthority (c : Char) : Bool :=
  c == '/' || endsPart c

def isForbiddenInHost (c : Char) : Bool :=
  ['\x00', '\t', '\n', '\r', ' ', '#', '/', ':', '<', '>', '?', '@', '[', '\\', ']', '^', '|'].contains c

/-- The host at the start of `s` and what follows it: a colon ends it outside square brackets. -/
def splitHost : (inBrackets : Bool) → List Char → List Char × List Char
  | _, [] => ([], [])
  | inBrackets, c :: r =>
    if c = ':' ∧ !inBrackets then ([], c :: r)
    else
      let rest := splitHost (if c = '[' then true else if c = ']' then false else inBrackets) r
      (c :: rest.1, rest.2)

def isHost (s : List Char) : Bool :=
  match s with
  | '[' :: r => r.getLast? == some ']' && Ipv6.isAddress r.dropLast
  | s => !s.any isForbiddenInHost

/-- A port is empty or a number below 65536; a backslash would start the path. -/
def isPort (s : List Char) : Bool :=
  decide (Decimal.valueFrom 0 (s.takeWhile isAsciiDigit) ≤ 65535)
    && ((s.dropWhile isAsciiDigit).head?.all (· == '\\'))

/-- A host and an optional port. Without a host there is neither a port nor a user. -/
def isHostAndPort (hasUser : Bool) (s : List Char) : Bool :=
  let (host, rest) := splitHost false s
  isHost host && match rest with
    | [] => !host.isEmpty || !hasUser
    | _ :: port => !host.isEmpty && isPort port

/-- The part in front of the last `@`, if there is one, and the part behind it. -/
def splitUser (s : List Char) : Option (List Char) × List Char :=
  match s.reverse.dropWhile (· != '@') with
  | _ :: user => (some user.reverse, (s.reverse.takeWhile (· != '@')).reverse)
  | [] => (none, s)

/-- An authority is well formed; `more` says that the URI goes on behind it. -/
def isAuthority (more : Bool) (s : List Char) : Bool :=
  match splitUser s with
  | (none, host) => isHostAndPort false host
  | (some [], host) => (!host.isEmpty || !more) && isHostAndPort false host
  | (some user, host) => isHostAndPort (user != [':']) host

def queryOf (s : List Char) : Option (List Char) :=
  match s.dropWhile (!endsPart ·) with
  | '?' :: r => some (r.takeWhile (· != '#'))
  | _ => none

/-- The query of what follows the scheme, unless its authority is malformed. -/
def hierarchical? (s : List Char) : Option (Option (List Char)) :=
  match s with
  | '/' :: '/' :: r =>
    let rest := r.dropWhile (!endsAuthority ·)
    if isAuthority (!rest.isEmpty) (r.takeWhile (!endsAuthority ·)) then some (queryOf rest) else none
  | s => some (queryOf s)

/-- The scheme and query of a URI of a scheme that gives no meaning to hosts. -/
def parse? (text : String) : Option Uri := do
  let (scheme, rest) ← scheme? (clean text.toList)
  let query ← hierarchical? rest
  return ⟨.ofList scheme, query⟩

end Uri

end TorrentAdmission
