import Micro86.Machine
import Micro86.Report

/-!
Program images and the machine that one is loaded into.
-/

namespace Micro86

inductive LoadError where
  /-- The file could not be read, for a cause that the host tells. -/
  | unreadable (path cause : String)
  | tooLarge (size max : Nat)
  deriving DecidableEq, Repr

namespace LoadError

def message : LoadError → String
  | .unreadable path _ => s!"failed to load {path}"
  | .tooLarge size max => s!"program size {size} too big (at most {max} bytes)"

def code : LoadError → String
  | .unreadable .. => "emu8086::load"
  | .tooLarge .. => "emu8086::program_too_large"

def cause? : LoadError → Option String
  | .unreadable _ cause => some cause
  | .tooLarge .. => none

def report (e : LoadError) : Report :=
  { code := e.code, message := e.message, cause? := e.cause? }

end LoadError

/-- A machine with the image of the program `name` at the program start. -/
def Machine.load {κ : Type} (name : String) (image : List UInt8) (console : κ) :
    Except LoadError (Machine κ) :=
  if maxImageSize < image.length then .error (.tooLarge image.length maxImageSize)
  else
    match Memory.empty.load programStart image with
    | .error _ => .error (.tooLarge image.length maxImageSize)
    | .ok memory => .ok { start console with memory, program := name }

end Micro86
