import Micro86.Machine.Step

/-!
Runs of many instructions, up to a limit on the count of all that were ever executed.
-/

namespace Micro86

/-- Why a run stopped without a fault. -/
inductive Outcome where
  | halted (code : UInt8)
  | stepLimit
  | endOfMemory
  deriving DecidableEq, Repr

namespace Outcome

def text : Outcome → String
  | .halted code => s!"halted with code {code.toNat}"
  | .stepLimit => "step limit reached"
  | .endOfMemory => "end of memory reached"

def describe : Outcome → String
  | .halted code => (Status.halted code).describe
  | .stepLimit => "StepLimit"
  | .endOfMemory => "EndOfMemory"

end Outcome

namespace Machine

variable {κ : Type} [Console κ]

/-- Why no instruction is executed when `budget` more are allowed, if there is a reason. -/
def outcome? (m : Machine κ) (budget : Nat) : Option Outcome :=
  match m.status with
  | .halted code => some (.halted code)
  | .running =>
    if budget = 0 then some .stepLimit
    else if m.ip.toNat < memorySize then none
    else some .endOfMemory

/-- Executes at most `budget` instructions. -/
def runFor : Nat → Machine κ → Except Fault Outcome × Machine κ
  | 0, m => (.ok ((m.outcome? 0).getD .stepLimit), m)
  | budget + 1, m =>
    match m.outcome? (budget + 1) with
    | some outcome => (.ok outcome, m)
    | none =>
      match m.step with
      | (.error f, m) => (.error f, m)
      | (.ok (), m) => runFor budget m

/-- How many instructions `limit` still allows. -/
def budget (m : Machine κ) (limit : UInt64) : Nat :=
  limit.toNat - m.steps.toNat

/-- Runs until the machine halts, has executed `limit` instructions or leaves memory. -/
def run (m : Machine κ) (limit : UInt64) : Except Fault Outcome × Machine κ :=
  m.runFor (m.budget limit)

end Machine

end Micro86
