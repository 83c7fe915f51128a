import TorrentAdmission.Log.Directive

/-!
# Log filters

Which notices a log shows. A filter is written as directives with commas between them. Of those that
are about notices for themselves the most specific one decides. A notice from inside the span of a
submission is also shown where a directive for that span allows it.
-/

namespace TorrentAdmission

abbrev Filter := List Directive

namespace Filter

def pieces : List Char → List (List Char)
  | [] => [[]]
  | c :: r =>
    if c = ',' then [] :: pieces r
    else
      match pieces r with
      | p :: ps => (c :: p) :: ps
      | [] => [[c]]

/-- Reads a filter. What is no directive is passed over; if there is none at all, errors are
shown. -/
def ofText (text : String) : Filter :=
  match (pieces text.toList).filterMap Directive.parse? with
  | [] => [{ rank := Level.error.rank }]
  | ds => ds

/-- The highest rank that any directive names; all levels, where values of fields are asked for. -/
def reach (f : Filter) : Nat :=
  if f.any Directive.asksForValue then Directive.everything
  else f.foldl (fun rank d => max rank d.rank) 0

def current : Filter → Filter
  | [] => []
  | d :: r => if r.any d.sameSubject then current r else d :: current r

/-! ### Things for themselves -/

/-- The directive that decides among those for something; of several that count as much, the last
one. -/
def deciding (f : Filter) (isFor : Directive → Bool) : Option Directive :=
  f.foldl
    (fun best d =>
      if d.concernsSingly && isFor d && best.all (·.yieldsTo d) then some d else best)
    none

def showsTopic (f : Filter) (t : Topic) : Bool :=
  (f.deciding (·.isForTopic t)).any fun d => decide (t.level.rank ≤ d.rank)

/-! ### Spans -/

def spanDirectives (f : Filter) : List Directive :=
  f.current.filter fun d => d.concernsSpans && d.isForSpan

/-- The span of submissions is shown: a directive is about what happens inside it, or the one that
decides about the span itself allows it. -/
def showsSpan (f : Filter) : Bool :=
  decide (Span.level.rank ≤ f.reach) &&
    (!f.spanDirectives.isEmpty ||
      (f.deciding (·.covers Span.reporter)).any fun d => decide (Span.level.rank ≤ d.rank))

/-- The rank down to which everything inside a span with these fields is shown. -/
def rankInside (f : Filter) (fields : Fields) : Nat :=
  (f.spanDirectives.filter (·.accepts fields)).foldl (fun rank d => max rank d.rank) 0

def apply (f : Filter) (n : Notice) : Option Notice :=
  let span := if f.showsSpan then n.span else none
  if f.showsTopic n.topic || span.any fun fields => decide (n.topic.level.rank ≤ f.rankInside fields) then
    some { n with span }
  else none

end Filter

end TorrentAdmission
