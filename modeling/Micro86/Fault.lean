import Micro86.Memory
import Micro86.Report

/-!
Why an instruction fails.
-/

namespace Micro86

inductive Fault where
  /-- A byte that starts no instruction, the byte after it, and its distance from
  the program start. -/
  | invalidOpcode (opcode next : UInt8) (offset : Int)
  /-- An `INT` without a service: its operand, the vector this selects, and the selector in AH. -/
  | invalidInterrupt (number : UInt8) (vector : Int) (service : UInt8)
  | memory (error : MemoryError)
  | stackOverflow
  | stackUnderflow
  /-- What the host said when a character could not be read or written. -/
  | console (text : String)
  deriving DecidableEq, Repr

namespace Fault

/-- A negative offset is printed as the 64-bit word that stands for it. -/
def message : Fault → String
  | .invalidOpcode opcode next offset =>
    let opcode := Hex.marked 2 opcode.toNat
    let next := Hex.marked 2 next.toNat
    let offset := Hex.marked 4 (UInt64.ofInt offset).toNat
    s!"invalid opcode {opcode}, {next} at offset {offset}"
  | .invalidInterrupt number vector service =>
    let number := Hex.marked 2 number.toNat
    let service := Hex.marked 2 service.toNat
    s!"invalid interrupt {number} (vector {vector}) with ah: {service}"
  | .memory error => s!"invalid memory access ({error.message})"
  | .stackOverflow => "stack overflow"
  | .stackUnderflow => "stack underflow: return without a matching call"
  | .console text => s!"console error: {text}"

def code : Fault → String
  | .invalidOpcode .. => "emu8086::invalid_opcode"
  | .invalidInterrupt .. => "emu8086::invalid_interrupt"
  | .memory _ => "emu8086::memory"
  | .stackOverflow => "emu8086::stack_overflow"
  | .stackUnderflow => "emu8086::stack_underflow"
  | .console _ => "emu8086::console"

def help? : Fault → Option String
  | .invalidOpcode .. => some "only NOP, MOV AH/DX, RET, INT, CALL and JMP are supported"
  | _ => none

def cause? : Fault → Option String
  | .memory error => some error.message
  | .console text => some text
  | _ => none

def report (f : Fault) : Report :=
  { code := f.code, message := f.message, cause? := f.cause?, help? := f.help? }

end Fault

end Micro86
