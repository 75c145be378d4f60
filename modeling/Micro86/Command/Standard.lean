import Micro86.Command.Arguments
import Micro86.Command.Toolkit
import Micro86.Log.Line
import Micro86.Report.Page

/-!
A toolkit. Completion scripts, what is told about a mistake after its first line, and the time are
given to it.
-/

namespace Micro86.Command.Toolkit

def answer (status : UInt8) (output errors : String) : Response :=
  { status, output := output.toUTF8.data, errors }

def ofTexts (script : Shell → String) (advice : UsageError → String)
    (clock : Nat → Option String) : Toolkit where
  parse arguments :=
    match Command.parse arguments with
    | .error e => .error (answer 2 "" (s!"error: {e.message}\n" ++ advice e))
    | .ok .help => .error (answer 0 helpText "")
    | .ok .version => .error (answer 0 versionText "")
    | .ok (.proceed o) => .ok o
  script
  subscribe? directives style :=
    (Log.Filter.parse? directives).map fun filter => .ofFilter clock filter style
  subscribe directives style := .ofFilter clock (Log.Filter.parse directives) style
  page := Report.page

end Micro86.Command.Toolkit
