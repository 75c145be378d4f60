/-!
The bytes that start an instruction.
-/

namespace Micro86

inductive Opcode where
  | nop
  | movAh
  | movDx
  | ret
  | int
  | call
  | jmp
  deriving DecidableEq, Repr

namespace Opcode

def all : List Opcode := [.nop, .movAh, .movDx, .ret, .int, .call, .jmp]

def byte : Opcode → UInt8
  | .nop => 0x5A
  | .movAh => 0xB4
  | .movDx => 0xBA
  | .ret => 0xC3
  | .int => 0xCD
  | .call => 0xE8
  | .jmp => 0xEB

def ofByte? (b : UInt8) : Option Opcode :=
  all.find? fun o => o.byte == b

/-- How many operand bytes are read. -/
def operandSize : Opcode → Nat
  | .nop | .ret => 0
  | .movAh | .int | .call | .jmp => 1
  | .movDx => 2

/-- How many bytes the instruction takes up. A call has room for a displacement of a whole word,
of which it reads the low byte only. -/
def size : Opcode → Nat
  | .call => 3
  | o => 1 + o.operandSize

def mnemonic : Opcode → String
  | .nop => "nop"
  | .movAh => "mov  ah, imm8"
  | .movDx => "mov  dx, imm16"
  | .ret => "ret"
  | .int => "int  imm8"
  | .call => "call rel8"
  | .jmp => "jmp  rel8"

/-- The word by which log lines tell what is executed. -/
def label : Opcode → String
  | .nop => "Nop"
  | .movAh => "MovAhImm8"
  | .movDx => "MovDxImm16"
  | .ret => "Ret"
  | .int => "Int"
  | .call => "CallRel8"
  | .jmp => "JmpRel8"

/-- The mnemonic shown for what a byte starts. -/
def shownMnemonic : Option Opcode → String
  | some o => o.mnemonic
  | none => "(invalid)"

def shownLabel : Option Opcode → String
  | some o => o.label
  | none => "Invalid"

def shownOperandSize : Option Opcode → Nat
  | some o => o.operandSize
  | none => 0

theorem ofByte?_byte (o : Opcode) : ofByte? o.byte = some o := by
  cases o <;> decide

theorem ofByte?_eq_some_iff {b : UInt8} {o : Opcode} : ofByte? b = some o ↔ b = o.byte := by
  constructor
  · intro h
    have := List.find?_some h
    simp only [beq_iff_eq] at this
    exact this.symm
  · rintro rfl
    exact ofByte?_byte o

theorem byte_ne_of_ofByte? {b : UInt8} (unknown : ofByte? b = none) (o : Opcode) : o.byte ≠ b := by
  rintro rfl
  rw [ofByte?_byte] at unknown
  cases unknown

end Opcode

end Micro86
