import Micro86.Command.Opt
import Micro86.Log.Record

/-!
What the arguments of the command ask for.
-/

namespace Micro86.Command

/-- How the log lines are to look; at most one of these is chosen. -/
inductive Format where
  | color
  | noColor
  | json
  deriving DecidableEq, Repr

def Format.opt : Format → Opt
  | .color => .color
  | .noColor => .noColor
  | .json => .json

structure Options where
  /-- The file with the program. -/
  path? : Option String
  /-- How often more was to be logged, as far as a byte can tell. -/
  verbosity : UInt8
  format? : Option Format
  limit : UInt64
  /-- Whether the exit status is to be that of the program. -/
  exitCode : Bool
  /-- The shell for which a completion script is wanted, and nothing else. -/
  shell? : Option Shell
  deriving DecidableEq, Repr

namespace Options

/-- The directives that say which records are shown, if the surroundings have none. -/
def directives (o : Options) : String :=
  match o.verbosity.toNat with
  | 0 => "info"
  | 1 => "emu8086=debug,emu8086_cli=debug,info"
  | 2 => "emu8086=trace,emu8086_cli=trace,info"
  | _ => "trace"

/-- How records look, on a terminal or not. -/
def style (o : Options) (terminal : Bool) : Log.Style :=
  match o.format? with
  | some .json => .json
  | some .color => .colored
  | some .noColor => .plain
  | none => if terminal then .colored else .plain

end Options

end Micro86.Command
