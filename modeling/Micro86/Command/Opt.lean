import Micro86.Layout

/-!
The options of the command.
-/

namespace Micro86.Command

def name : String := "emu8086-cli"

def version : String := "0.1.0"

def about : String := "An interpreter for a subset of the Intel 8086 and DOS services"

inductive Shell where
  | bash
  | elvish
  | fish
  | powershell
  | zsh
  deriving DecidableEq, Repr

namespace Shell

def all : List Shell := [.bash, .elvish, .fish, .powershell, .zsh]

def name : Shell → String
  | .bash => "bash"
  | .elvish => "elvish"
  | .fish => "fish"
  | .powershell => "powershell"
  | .zsh => "zsh"

def ofName? (s : String) : Option Shell :=
  all.find? (·.name == s)

end Shell

/-- The options in the order in which they are explained. -/
inductive Opt where
  | verbose
  | color
  | noColor
  | json
  | maxSteps
  | exitCode
  | completions
  | help
  | version
  deriving DecidableEq, Repr

namespace Opt

def all : List Opt :=
  [.verbose, .color, .noColor, .json, .maxSteps, .exitCode, .completions, .help, .version]

def short? : Opt → Option Char
  | .verbose => some 'v'
  | .color => some 'c'
  | .noColor => some 'C'
  | .json => some 'j'
  | .help => some 'h'
  | .version => some 'V'
  | .maxSteps | .exitCode | .completions => none

def long : Opt → String
  | .verbose => "verbose"
  | .color => "color"
  | .noColor => "no-color"
  | .json => "json"
  | .maxSteps => "max-steps"
  | .exitCode => "exit-code"
  | .completions => "completions"
  | .help => "help"
  | .version => "version"

/-- What the value of an option that takes one is called. -/
def value? : Opt → Option String
  | .maxSteps => some "N"
  | .completions => some "SHELL"
  | _ => none

def summary : Opt → String
  | .verbose => "Increase the level of verbosity. Can be used multiple times"
  | .color => "Force colored output. Default is to check if the output is a tty"
  | .noColor => "Force non-colored output. Default is to check if the output is a tty"
  | .json => "Use JSON output for log messages"
  | .maxSteps => "Stop after this many instructions"
  | .exitCode => "Exit with the return code the program passed to `INT 21h/AH=4Ch`"
  | .completions => "Print a completion script for the given shell and exit"
  | .help => "Print help"
  | .version => "Print version"

/-- What the summary is followed by in the help text. -/
def remark : Opt → String
  | .maxSteps => s!" [default: {defaultStepLimit}]"
  | .completions =>
    let names := ", ".intercalate (Shell.all.map Shell.name)
    s!" [possible values: {names}]"
  | _ => ""

/-- How the option is written; one that may be repeated is followed by dots. -/
def shown (o : Opt) : String :=
  match o, o.value? with
  | .verbose, _ => "--verbose..."
  | o, none => "--" ++ o.long
  | o, some value => s!"--{o.long} <{value}>"

def ofLong? (name : String) : Option Opt :=
  all.find? (·.long == name)

def ofShort? (letter : Char) : Option Opt :=
  all.find? (·.short? == some letter)

end Opt

/-- A line of a table with two columns, the left one of `width` characters. -/
def tableLine (width : Nat) (left right : String) : String :=
  "  " ++ String.ofList (left.toList.rightpad width ' ') ++ "  " ++ right ++ "\n"

def Opt.tableLine (o : Opt) : String :=
  let short := (o.short?.map fun c => String.ofList ['-', c, ',', ' ']).getD "    "
  Command.tableLine 25 (short ++ o.shown) (o.summary ++ o.remark)

def helpText : String :=
  s!"{about}\n\nUsage: {name} [OPTIONS] [INPUT]\n\nArguments:\n"
    ++ tableLine 7 "[INPUT]" "Flat binary program, loaded at offset 0x100"
    ++ "\nOptions:\n" ++ String.join (Opt.all.map Opt.tableLine)

def versionText : String :=
  s!"{name} {version}\n"

end Micro86.Command
