/-!
Log records: what happened, how important it is, which part of the program tells it, and within
what. A `Subscriber` writes them.
-/

namespace Micro86.Log

/-- Levels from the most talkative to the gravest. -/
inductive Level where
  | trace
  | debug
  | info
  | warn
  | error
  deriving DecidableEq, Repr

def Level.rank : Level → Nat
  | .trace => 0
  | .debug => 1
  | .info => 2
  | .warn => 3
  | .error => 4

def Level.name : Level → String
  | .trace => "TRACE"
  | .debug => "DEBUG"
  | .info => "INFO"
  | .warn => "WARN"
  | .error => "ERROR"

inductive Value where
  | number (n : Nat)
  | text (s : String)
  /-- A text that is set in quotes wherever it is shown. -/
  | quoted (s : String)
  deriving DecidableEq, Repr

structure Field where
  name : String
  value : Value
  deriving DecidableEq, Repr

/-- Something that goes on while records are made. -/
structure Span where
  name : String
  level : Level
  target : String
  fields : List Field
  deriving DecidableEq, Repr

structure Record where
  level : Level
  target : String
  message : String
  fields : List Field := []
  /-- From the outermost to the innermost. -/
  spans : List Span := []
  deriving DecidableEq, Repr

/-- What the lines of records look like. -/
inductive Style where
  | plain
  | colored
  | json
  deriving DecidableEq, Repr

/-- Writes records as they are made. -/
structure Subscriber where
  /-- The text that is written for a record after so many bytes of output, empty if it is not shown.
  The same record may look different later, as its time may be told. -/
  text : Nat → Record → String

end Micro86.Log
