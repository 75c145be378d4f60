import Micro86.Machine.Step

/-!
Single steps, one after another, and what the machine looks like after each.
-/

namespace Micro86.Machine

variable {κ : Type} [Console κ]

structure Glimpse where
  ip : Address
  registers : Registers
  status : Status

def glimpse (m : Machine κ) : Glimpse := ⟨m.ip, m.registers, m.status⟩

/-- Why a trace ends. -/
inductive TraceEnd where
  | halted
  | exhausted
  | fault (f : Fault)

structure Trace (κ : Type) where
  glimpses : List Glimpse
  finish : TraceEnd
  machine : Machine κ

/-- At most `n` steps, up to the one after which the machine has halted. -/
def trace : Nat → Machine κ → Trace κ
  | 0, m => ⟨[], .exhausted, m⟩
  | n + 1, m =>
    match m.step with
    | (.error f, m) => ⟨[], .fault f, m⟩
    | (.ok (), m) =>
      let g := m.glimpse
      match m.status with
      | .halted _ => ⟨[g], .halted, m⟩
      | .running =>
        let t := trace n m
        { t with glimpses := g :: t.glimpses }

end Micro86.Machine
