import Micro86.Command.Options
import Micro86.Report

/-!
What the command is made with and does not make itself: how arguments are read, how records are
shown, and how reports are set.
-/

namespace Micro86.Command

structure Response where
  status : UInt8
  output : Array UInt8
  /-- What goes to the standard error stream. -/
  errors : String
  deriving DecidableEq

structure Toolkit where
  /-- Reads the arguments, or answers them at once, as it does a call for help or a mistake. -/
  parse : List String → Except Response Options
  /-- The completion script for a shell. -/
  script : Shell → String
  /-- Shows the records that directives admit, if the directives can be understood. -/
  subscribe? : String → Log.Style → Option Log.Subscriber
  /-- The same, but what cannot be understood is passed over. -/
  subscribe : String → Log.Style → Log.Subscriber
  /-- Sets a report on a page. -/
  page : Report → String

/-- What the command finds around it. -/
structure Surroundings where
  /-- The directives for the log, if there are any. -/
  directives? : Option String := none
  /-- Whether the output is read by a person. -/
  terminal : Bool := false

/-- Directives of the surroundings come first; if they cannot be understood, those of
the options count. -/
def Toolkit.subscriber (kit : Toolkit) (s : Surroundings) (o : Options) : Log.Subscriber :=
  let style := o.style s.terminal
  (s.directives?.bind fun directives => kit.subscribe? directives style).getD
    (kit.subscribe o.directives style)

end Micro86.Command
