import Micro86.Proofs.Stack
import Micro86.Proofs.Step

/-!
# Where faults come from
-/

namespace Micro86

theorem mapError_ne_console {α : Type} (x : Except MemoryError α) (text : String) :
    x.mapError Fault.memory ≠ .error (.console text) := by
  intro h
  cases x with
  | error e => cases h
  | ok a => cases h

theorem Instruction.fetch_ne_console (m : Memory) (ip : Address) (text : String) :
    fetch m ip ≠ .error (.console text) := by
  fun_cases fetch m ip with
  | case1 e unreadable =>
    intro h
    cases h
  | case2 b readable unknown =>
    intro h
    cases h
  | case3 b readable o known => exact mapError_ne_console _ _

theorem Instruction.target_ne_console (origin : Address) (displacement : Int8) (text : String) :
    target origin displacement ≠ .error (.console text) := by
  fun_cases target origin displacement with
  | case1 t above =>
    intro h
    cases h
  | case2 t below =>
    intro h
    cases h

namespace Machine

variable {κ : Type}

theorem top_ne_console (m : Machine κ) (text : String) : m.top ≠ .error (.console text) := by
  fun_cases top m with
  | case1 sp empty =>
    intro h
    cases h
  | case2 sp full => exact mapError_ne_console _ _

variable [Console κ]

/-- Only a service fails with what the console said. -/
theorem Step.console {m m' : Machine κ} {text : String} (h : Step m (.error (.console text)) m') :
    ∃ number v, m.instruction = .ok (.int number) ∧ m.service? number = some v ∧
      Serves m v (.error (.console text)) m' := by
  generalize failed : (Except.error (.console text) : Except Fault Unit) = r at h
  cases h with
  | nop | movAh | movDx | ret | int | call | jmp => cases failed
  | intFails next selects serves =>
    cases failed
    exact ⟨_, _, next, selects, serves⟩
  | unreadable next =>
    cases failed
    exact absurd next (Instruction.fetch_ne_console _ _ _)
  | retFails next top =>
    cases failed
    exact absurd top (top_ne_console _ _)
  | noService => cases failed
  | callFails next push =>
    cases failed
    cases (push_error_iff.mp push).2.1
  | callBelow next push target =>
    cases failed
    exact absurd target (Instruction.target_ne_console _ _ _)
  | jmpBelow next target =>
    cases failed
    exact absurd target (Instruction.target_ne_console _ _ _)

/-- A buffer never fails. -/
theorem Serves.buffer {m m' : Machine Buffer} {v : Service} {r : Except Fault Unit}
    (h : Serves m v r m') : r = .ok () := by
  cases h with
  | terminate | exit | received | wrote => rfl
  | unread answer => cases answer
  | unwritten writes answer => cases answer

end Machine

end Micro86
