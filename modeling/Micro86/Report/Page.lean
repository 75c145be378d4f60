import Micro86.Report
import Micro86.Text.Wrapped

/-!
Reports set on a page: the code, and below it the message with the cause and the advice.
-/

namespace Micro86.Report

/-- How many columns the page has. -/
def width : Nat := 78

def messageShape : Wrapped.Shape := { width, first := "  × ", rest := "  │ " }

def causeShape : Wrapped.Shape := { width, first := "  ╰─▶ ", rest := "      " }

def helpShape : Wrapped.Shape := { width, first := "  help: ", rest := "        " }

/-- The lines of the report, an empty one after the code. -/
def lines (r : Report) : List String :=
  let cause := (r.cause?.map causeShape.lines).getD []
  let help := (r.help?.map helpShape.lines).getD []
  [r.code, ""] ++ messageShape.lines r.message ++ cause ++ help

def page (r : Report) : String :=
  String.join (r.lines.map fun line => line ++ "\n")

end Micro86.Report
