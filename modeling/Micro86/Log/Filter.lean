import Micro86.Log.Directive

/-!
Which records are shown, and within which spans.

A filter is a list of directives. Of those that can be judged without regard to spans, the one with
the longest target that starts the target of a record decides about it. Those that name a span or a
field watch spans: a span that is watched is shown, and while it goes on the records within it are
shown that the directives admit whose tests its fields pass.
-/

namespace Micro86.Log

abbrev Filter := List Directive

/-- The more talkative of two least levels. -/
def Level.wider (a? b? : Option Level) : Option Level :=
  match a?, b? with
  | none, b? => b?
  | a?, none => a?
  | some a, some b => if a.rank ≤ b.rank then some a else some b

namespace Directive

/-- Whether a directive decides rather than `e`, which comes before it. -/
def outranks (d e : Directive) : Bool :=
  if d.target.length = e.target.length then
    match d.condition?, e.condition? with
    | _, none => true
    | none, some _ => false
    | some c, some b => b.field ≤ c.field
  else e.target.length < d.target.length

/-- Whether a record with these fields has the one that the directive asks for. -/
def asksFor (d : Directive) (fields : List String) : Bool :=
  d.condition?.all fun c => fields.contains c.field

/-- Whether a directive is about the same as another. -/
def replaces (d e : Directive) : Bool :=
  d.target == e.target && d.span? == e.span? && d.condition? == e.condition?

def watches (d : Directive) (s : Span) : Bool :=
  d.isDynamic && d.covers s.target && d.span?.all (· == s.name)
    && d.asksFor (s.fields.map Field.name)

/-- Whether a field of the span passes the test of the directive, if there is one. -/
def holdsOf (d : Directive) (s : Span) : Bool :=
  d.condition?.all fun c =>
    c.test?.all fun t => s.fields.any fun f => f.name == c.field && t.holds f.value

end Directive

namespace Filter

/-- The directive that decides among those that `covers` tells to be about a record. -/
def decisive? (f : Filter) (covers : Directive → Bool) : Option Directive :=
  f.foldl
    (fun best? d =>
      if d.isStatic && covers d && best?.all d.outranks then some d else best?)
    none

def admits (f : Filter) (level : Level) (covers : Directive → Bool) : Bool :=
  (f.decisive? covers).any fun d => level.passes d.level?

/-- Whether a span is shown without regard to the spans around it; its fields do not matter. -/
def admitsSpan (f : Filter) (s : Span) : Bool :=
  f.admits s.level (·.covers s.target)

/-- Whether a record is shown without regard to its spans. -/
def admitsRecord (f : Filter) (r : Record) : Bool :=
  f.admits r.level fun d => d.covers r.target && d.asksFor ("message" :: r.fields.map Field.name)

/-- The least level that may be shown at all. -/
def widest (f : Filter) : Option Level :=
  if f.any (·.hasTest) then some .trace
  else f.foldl (fun least? d => Level.wider least? d.level?) none

/-- The directives that watch a span; of several about the same the last one counts. -/
def watchers : Filter → Span → List Directive
  | [], _ => []
  | d :: f, s =>
    let later := watchers f s
    if d.watches s && !later.any (·.replaces d) then d :: later else later

/-- The least level that is shown within a span because the span is watched. -/
def within (f : Filter) (s : Span) : Option Level :=
  ((f.watchers s).filter (·.holdsOf s)).foldl (fun least? d => Level.wider least? d.level?) none

/-- Whether a span is shown where the spans around it have opened the least level `least?`. -/
def showsSpan (f : Filter) (least? : Option Level) (s : Span) : Bool :=
  (!(f.watchers s).isEmpty && s.level.passes f.widest) || s.level.passes least? || f.admitsSpan s

/-- The spans that are shown, from the outermost on, and the least level that is
open within them. -/
def enter (f : Filter) (least? : Option Level) : List Span → List Span × Option Level
  | [] => ([], least?)
  | s :: spans =>
    if f.showsSpan least? s then
      let (shown, least?) := f.enter (Level.wider least? (f.within s)) spans
      (s :: shown, least?)
    else f.enter least? spans

/-- The record as it is shown, with the spans that are. -/
def view? (f : Filter) (r : Record) : Option Record :=
  let (spans, least?) := f.enter none r.spans
  if r.level.passes least? || f.admitsRecord r then some { r with spans } else none

/-- The parts of a text between commas. -/
def pieces : List Char → List (List Char)
  | [] => [[]]
  | ',' :: cs => [] :: pieces cs
  | c :: cs =>
    match pieces cs with
    | [] => [[c]]
    | piece :: more => (c :: piece) :: more

/-- The filter if no directive is given: errors are shown. -/
def errors : Filter := [{ target := "", level? := some .error }]

/-- Reads directives between commas. -/
def parse? (s : String) : Option Filter :=
  match (pieces s.toList).filter (!·.isEmpty) with
  | [] => some errors
  | pieces => pieces.mapM Directive.read?

/-- Reads the directives that can be understood. -/
def parse (s : String) : Filter :=
  match (pieces s.toList).filterMap Directive.read? with
  | [] => errors
  | directives => directives

end Filter

end Micro86.Log
