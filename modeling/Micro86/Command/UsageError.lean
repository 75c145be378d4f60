import Micro86.Command.Opt
import Micro86.Text.Number
import Micro86.Text.Stripped

/-!
What can be wrong with the arguments of the command.
-/

namespace Micro86.Command

inductive UsageError where
  | unexpectedArgument (argument : String)
  | unexpectedValue (value : String) (option : Opt)
  | missingValue (option : Opt)
  | invalidNumber (value : String) (option : Opt) (error : NumberError)
  | invalidChoice (value : String) (option : Opt)
  | repeated (option : Opt)
  | conflict (option other : Opt)
  /-- An option that conflicts with more than one other. -/
  | conflicts (option : Opt)
  /-- An option that stands alone is not alone. -/
  | notAlone (option : Opt)
  | missingInput
  deriving DecidableEq, Repr

open Stripped (strip)

/-- What is told about the error; of arguments and values only what a terminal shows. -/
def UsageError.message : UsageError → String
  | .unexpectedArgument argument => s!"unexpected argument '{strip argument}' found"
  | .unexpectedValue value option =>
    s!"unexpected value '{strip value}' for '{option.shown}' found; no more were expected"
  | .missingValue option => s!"a value is required for '{option.shown}' but none was supplied"
  | .invalidNumber value option error =>
    s!"invalid value '{strip value}' for '{option.shown}': {error.message}"
  | .invalidChoice value option => s!"invalid value '{strip value}' for '{option.shown}'"
  | .repeated option => s!"the argument '{option.shown}' cannot be used multiple times"
  | .conflict option other =>
    s!"the argument '{option.shown}' cannot be used with '{other.shown}'"
  | .conflicts option => s!"the argument '{option.shown}' cannot be used with:"
  | .notAlone option =>
    s!"the argument '{option.shown}' cannot be used with one or more of the other "
      ++ "specified arguments"
  | .missingInput => "the following required arguments were not provided:"

end Micro86.Command
