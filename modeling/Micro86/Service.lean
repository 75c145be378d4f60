/-!
The host services that an `INT` can select.
-/

namespace Micro86

inductive Service where
  /-- Stops the program with the code 0. -/
  | terminate
  /-- Reads a character into AL. -/
  | readChar
  /-- Writes DL and returns it in AL. -/
  | writeCharEcho
  /-- Writes DL. -/
  | writeChar
  /-- Writes DL and returns it in AL. -/
  | directConsole
  /-- Writes the string at DX. -/
  | printString
  /-- Stops the program with the code in AL. -/
  | exit
  deriving DecidableEq, Repr

/-- Ends a string that is printed. -/
def stringTerminator : UInt8 := 0x24

/-- Read in place of a character once the input is exhausted. -/
def endOfInput : UInt8 := 0xFF

namespace Service

/-- `INT n` selects the vector `n - vectorBase`. -/
def vectorBase : UInt8 := 0x20

/-- How many vectors there are; only the first two have services. -/
def vectorCount : Nat := 16

def title : Service → String
  | .terminate => "terminate"
  | .readChar => "read character"
  | .writeCharEcho | .writeChar => "write character"
  | .directConsole => "direct console output"
  | .printString => "print string"
  | .exit => "exit"

/-- The title shown for what an `INT` selects. -/
def shownTitle : Option Service → String
  | some s => s.title
  | none => "(invalid)"

/-- The services of `INT 21h`, keyed by AH. -/
def dos : List (UInt8 × Service) :=
  [(0x00, .terminate), (0x01, .readChar), (0x02, .writeCharEcho), (0x05, .writeChar),
    (0x06, .directConsole), (0x07, .readChar), (0x08, .readChar), (0x09, .printString),
    (0x4C, .exit)]

/-- The vector of `INT number`, negative for a number below `vectorBase`. -/
def vector (number : UInt8) : Int :=
  (number.toNat : Int) - vectorBase.toNat

/-- The service of `INT number` when AH holds `selector`. -/
def select? (number selector : UInt8) : Option Service :=
  if vector number = 0 then some .terminate
  else if vector number = 1 then dos.lookup selector
  else none

end Service

end Micro86
