/-!
What is told about an error that ends the command.
-/

namespace Micro86

structure Report where
  code : String
  message : String
  /-- The error behind this one. -/
  cause? : Option String := none
  /-- What may be done about it. -/
  help? : Option String := none
  deriving DecidableEq, Repr

end Micro86
