import Micro86.Command.Options
import Micro86.Command.UsageError

/-!
A reader of arguments, from left to right.

The first error counts. The value of an option is judged when the next option or the input is
reached, or at the end; help and version are granted at once, and conflicts are looked for last.
-/

namespace Micro86.Command

/-- What an argument looks like. -/
inductive Argument where
  /-- Two signs alone, after which there are no more options. -/
  | dashes
  /-- A full option, with what follows the sign `=`. -/
  | long (name : String) (value? : Option String)
  /-- The letters of some options. -/
  | short (letters : List Char)
  /-- No option. -/
  | plain
  deriving DecidableEq, Repr

namespace Argument

/-- The parts of a full option before and after the first sign `=`. -/
def split (cs : List Char) : String × Option String :=
  let value? :=
    match cs.dropWhile (· != '=') with
    | [] => none
    | _ :: value => some (String.ofList value)
  (String.ofList (cs.takeWhile (· != '=')), value?)

def ofString (s : String) : Argument :=
  match s.toList with
  | ['-', '-'] => .dashes
  | '-' :: '-' :: cs => let (name, value?) := split cs; .long name value?
  | ['-'] => .plain
  | '-' :: cs => .short cs
  | _ => .plain

end Argument

/-- What is made of arguments that can be understood. -/
inductive Request where
  | help
  | version
  | proceed (options : Options)
  deriving DecidableEq, Repr

/-- Why the reading of arguments ends before their end. -/
inductive Stop where
  | help
  | version
  | refused (error : UsageError)
  deriving DecidableEq, Repr

/-- What was read so far. -/
structure Draft where
  verbosity : UInt8 := 0
  /-- In the order in which they were given. -/
  formats : List Format := []
  exitCode : Bool := false
  limit? : Option UInt64 := none
  shell? : Option Shell := none
  path? : Option String := none
  /-- An option whose value is not judged yet, and the value once there is one. -/
  pending? : Option (Opt × Option String) := none
  /-- Whether all that follows is input. -/
  onlyInput : Bool := false

namespace Draft

def refuse {α : Type} (error : UsageError) : Except Stop α :=
  .error (.refused error)

/-- Takes the value of an option, if the option has one. -/
def assign (d : Draft) (o : Opt) (value : String) : Except Stop Draft :=
  match o with
  | .maxSteps =>
    if d.limit?.isSome then refuse (.repeated o)
    else
      match Number.read value.toList with
      | .ok limit => .ok { d with limit? := some limit }
      | .error e => refuse (.invalidNumber value o e)
  | .completions =>
    if d.shell?.isSome then refuse (.repeated o)
    else
      match Shell.ofName? value with
      | some shell => .ok { d with shell? := some shell }
      | none => refuse (if value = "" then .missingValue o else .invalidChoice value o)
  | _ => .ok d

/-- Judges the pending value. -/
def settle (d : Draft) : Except Stop Draft :=
  match d.pending? with
  | none => .ok d
  | some (o, none) => refuse (.missingValue o)
  | some (o, some value) => { d with pending? := none }.assign o value

/-- One more request to log more; a byte holds no more than 255 of them. -/
def addVerbose (d : Draft) : Draft :=
  { d with verbosity := if d.verbosity = 255 then 255 else d.verbosity + 1 }

def addFormat (d : Draft) (f : Format) : Except Stop Draft :=
  if f ∈ d.formats then refuse (.repeated f.opt) else .ok { d with formats := d.formats ++ [f] }

/-- Takes an option that has no value, or whose value comes with the next argument. -/
def addOption (d : Draft) (o : Opt) : Except Stop Draft := do
  let d ← d.settle
  match o with
  | .verbose => return d.addVerbose
  | .color => d.addFormat .color
  | .noColor => d.addFormat .noColor
  | .json => d.addFormat .json
  | .exitCode => if d.exitCode then refuse (.repeated o) else return { d with exitCode := true }
  | .help => throw .help
  | .version => throw .version
  | .maxSteps | .completions => return { d with pending? := some (o, none) }

/-- Takes an option with its full name and what follows the sign `=`. -/
def addLong (d : Draft) (name : String) (value? : Option String) : Except Stop Draft :=
  match Opt.ofLong? name, value? with
  | none, _ => refuse (.unexpectedArgument ("--" ++ name))
  | some o, none => d.addOption o
  | some o, some value => do
    if o.value?.isNone then refuse (.unexpectedValue value o)
    else (← d.settle).assign o value

/-- Takes the options of a cluster of letters. -/
def addShort (d : Draft) : List Char → Except Stop Draft
  | [] => .ok d
  | c :: cs =>
    match Opt.ofShort? c with
    | none => refuse (.unexpectedArgument (String.ofList ['-', c]))
    | some o => do (← d.addOption o).addShort cs

def addInput (d : Draft) (path : String) : Except Stop Draft :=
  if d.path?.isSome then refuse (.unexpectedArgument path)
  else do
    let d ← d.settle
    return { d with path? := some path }

/-- An argument that is no option: the value that is waited for, or the input. -/
def addPlain (d : Draft) (argument : String) : Except Stop Draft :=
  match d.pending? with
  | some (o, none) => .ok { d with pending? := some (o, some argument) }
  | _ => d.addInput argument

def add (d : Draft) (argument : String) : Except Stop Draft :=
  if d.onlyInput then d.addInput argument
  else
    match Argument.ofString argument with
    | .dashes => .ok { d with onlyInput := true }
    | .long name value? => d.addLong name value?
    | .short letters => d.addShort letters
    | .plain => d.addPlain argument

/-- How many different arguments were given. -/
def count (d : Draft) : Nat :=
  [d.verbosity != 0, d.exitCode, d.limit?.isSome, d.shell?.isSome, d.path?.isSome].count true
    + d.formats.length

def options (d : Draft) : Options :=
  { path? := d.path?
    verbosity := d.verbosity
    format? := d.formats.head?
    limit := d.limit?.getD defaultStepLimit.toUInt64
    exitCode := d.exitCode
    shell? := d.shell? }

/-- What is asked for, if the arguments go together. -/
def finish (d : Draft) : Except UsageError Options :=
  match d.shell?, d.formats, d.path? with
  | some _, _, _ => if d.count = 1 then .ok d.options else .error (.notAlone .completions)
  | none, [f, g], _ => .error (.conflict f.opt g.opt)
  | none, f :: _ :: _, _ => .error (.conflicts f.opt)
  | none, _, none => .error .missingInput
  | none, _, some _ => .ok d.options

end Draft

def parse (arguments : List String) : Except UsageError Request :=
  match arguments.foldlM Draft.add {} >>= Draft.settle with
  | .ok d => d.finish.map .proceed
  | .error .help => .ok .help
  | .error .version => .ok .version
  | .error (.refused error) => .error error

end Micro86.Command
