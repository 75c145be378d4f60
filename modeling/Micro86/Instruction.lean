import Micro86.Fault
import Micro86.Opcode

/-!
Instructions with their operands, as they are read from memory.
-/

namespace Micro86

inductive Instruction where
  | nop
  | movAh (value : UInt8)
  | movDx (value : Word)
  | ret
  | int (number : UInt8)
  | call (displacement : Int8)
  | jmp (displacement : Int8)
  deriving DecidableEq, Repr

namespace Instruction

def opcode : Instruction → Opcode
  | .nop => .nop
  | .movAh _ => .movAh
  | .movDx _ => .movDx
  | .ret => .ret
  | .int _ => .int
  | .call _ => .call
  | .jmp _ => .jmp

/-- The address after an instruction that starts at `ip`. -/
def next (i : Instruction) (ip : Address) : Address :=
  ip + i.opcode.size.toUInt64

/-- Reads the operands of `o`, the first of which is at `operand`. -/
def read (m : Memory) (operand : Address) : Opcode → Except MemoryError Instruction
  | .nop => .ok .nop
  | .movAh => (m.read8 operand).map .movAh
  | .movDx => (m.read16 operand).map .movDx
  | .ret => .ok .ret
  | .int => (m.read8 operand).map .int
  | .call => (m.read8 operand).map fun b => .call b.toInt8
  | .jmp => (m.read8 operand).map fun b => .jmp b.toInt8

/-- The fault of a byte at `ip` that starts no instruction. -/
def unsupported (m : Memory) (ip : Address) (opcode : UInt8) : Fault :=
  let next := (m.read8 (ip + 1)).toOption.getD 0
  .invalidOpcode opcode next (ip.toNat - programStart.toNat)

/-- Reads the instruction at `ip`. -/
def fetch (m : Memory) (ip : Address) : Except Fault Instruction :=
  match m.read8 ip with
  | .error e => .error (.memory e)
  | .ok opcode =>
    match Opcode.ofByte? opcode with
    | none => .error (unsupported m ip opcode)
    | some o => (read m (ip + 1) o).mapError .memory

/-- Where a jump by `displacement` from `origin` leads, if there is such an address. -/
def target (origin : Address) (displacement : Int8) : Except Fault Address :=
  let t := (origin.toNat : Int) + displacement.toInt
  if 0 ≤ t ∧ t < UInt64.size then .ok t.toNat.toUInt64
  else .error (.memory (.outOfBounds origin))

end Instruction

end Micro86
