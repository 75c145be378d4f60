import Micro86.Log.Filter
import Micro86.Text.Quoted

/-!
Log records as lines of text, in colors or not, or as JSON objects.
-/

namespace Micro86.Log

def Level.color : Level → String
  | .trace => "35"
  | .debug => "34"
  | .info => "32"
  | .warn => "33"
  | .error => "31"

namespace Value

def plain : Value → String
  | .number n => toString n
  | .text s => s
  | .quoted s => Quoted.text s

def json : Value → String
  | .number n => toString n
  | .text s | .quoted s => Quoted.json s

end Value

/-- How the parts of a line are marked. -/
structure Paint where
  level : Level → String → String
  strong : String → String
  faint : String → String
  slanted : String → String

/-- Text between the escape sequences that switch a rendition on and off. -/
def rendition (code text : String) : String :=
  s!"\x1b[{code}m{text}\x1b[0m"

def Paint.none : Paint where
  level _ s := s
  strong s := s
  faint s := s
  slanted s := s

def Paint.ansi : Paint where
  level l s := rendition l.color s
  strong := rendition "1"
  faint := rendition "2"
  slanted := rendition "3"

namespace Paint

def field (p : Paint) (f : Field) : String :=
  p.slanted f.name ++ p.faint "=" ++ f.value.plain

def span (p : Paint) (s : Span) : String :=
  let fields := " ".intercalate (s.fields.map p.field)
  p.strong s.name ++ p.strong "\x7b" ++ fields ++ p.strong "\x7d" ++ p.faint ":"

def levelName (p : Paint) (l : Level) : String :=
  p.level l (String.ofList (l.name.toList.leftpad 5 ' '))

/-- The level, the spans, the message and the fields of a record. -/
def line (p : Paint) (r : Record) : String :=
  let spans := String.join (r.spans.map p.span)
  let gap := if r.spans.isEmpty then "" else " "
  let fields := String.join (r.fields.map fun f => " " ++ p.field f)
  p.levelName r.level ++ " " ++ spans ++ gap ++ r.message ++ fields

end Paint

namespace Json

def object (members : List (String × String)) : String :=
  let members := members.map fun (name, value) => Quoted.json name ++ ":" ++ value
  "\x7b" ++ ",".intercalate members ++ "\x7d"

def array (items : List String) : String :=
  "[" ++ ",".intercalate items ++ "]"

/-- The fields of a span in the order of their names, and the name of the span after them. -/
def span (s : Span) : String :=
  let fields := s.fields.mergeSort fun a b => a.name ≤ b.name
  object ((fields.map fun f => (f.name, f.value.json)) ++ [("name", Quoted.json s.name)])

def line (time? : Option String) (r : Record) : String :=
  let time := (time?.map fun time => ("timestamp", Quoted.json time)).toList
  let fields := r.fields.map fun f => (f.name, f.value.json)
  let innermost := (r.spans.getLast?.map fun s => ("span", span s)).toList
  let all := if r.spans.isEmpty then [] else [("spans", array (r.spans.map span))]
  object (time ++ [("level", Quoted.json r.level.name),
    ("fields", object (("message", Quoted.json r.message) :: fields)),
    ("target", Quoted.json r.target)] ++ innermost ++ all)

end Json

/-- A record as a line; only an object tells the time. -/
def Style.line (time? : Option String) : Style → Record → String
  | .plain => Paint.none.line
  | .colored => Paint.ansi.line
  | .json => Json.line time?

/-- Shows the records that the filter admits, one on each line. The clock tells the time, if it can,
when so many bytes have been written. -/
def Subscriber.ofFilter (clock : Nat → Option String) (f : Filter) (style : Style) : Subscriber where
  text size r := ((f.view? r).map fun shown => style.line (clock size) shown ++ "\n").getD ""

end Micro86.Log
