import Micro86.Console
import Micro86.Instruction
import Micro86.Registers
import Micro86.Text.Quoted

/-!
The machine and its stack.

An operation that can fail gives its result beside the machine it leaves, since a failure may come
after a change. The stack grows down from `stackTop`; SP counts the bytes on it.
-/

namespace Micro86

inductive Status where
  | running
  | halted (code : UInt8)
  deriving DecidableEq, Repr

structure Machine (κ : Type) where
  registers : Registers
  memory : Memory
  console : κ
  /-- The address of the next instruction. -/
  ip : Address
  status : Status
  /-- How many instructions were executed. -/
  steps : UInt64
  /-- The name of the program. -/
  program : String

namespace Status

def describe : Status → String
  | .running => "Running"
  | .halted code => s!"Halted \x7b code: {code.toNat} \x7d"

def exitCode? : Status → Option UInt8
  | .running => none
  | .halted code => some code

end Status

namespace Machine

variable {κ : Type}

/-- An empty machine that will start at the program start. -/
def start (console : κ) : Machine κ :=
  { registers := Registers.zero.setWord .ip programStart.toUInt16
    memory := Memory.empty
    console
    ip := programStart
    status := .running
    steps := 0
    program := "" }

def halt (m : Machine κ) (code : UInt8) : Machine κ :=
  { m with status := .halted code }

def setByte (m : Machine κ) (r : Reg8) (value : UInt8) : Machine κ :=
  { m with registers := m.registers.setByte r value }

def setWord (m : Machine κ) (r : Reg16) (value : Word) : Machine κ :=
  { m with registers := m.registers.setWord r value }

/-- SP after a push, if there is room for one. -/
def pushed? (m : Machine κ) : Option Word :=
  let sp := m.registers.word .sp
  if sp < 0xFFFE then some (sp + 2) else none

/-- The address of the word on top of the stack when SP is `sp`. -/
def slot (sp : Word) : Address :=
  stackTop - sp.toUInt64

def push (m : Machine κ) (value : Word) : Except Fault Unit × Machine κ :=
  match m.pushed? with
  | none => (.error .stackOverflow, m)
  | some sp =>
    match m.memory.write16 (slot sp) value with
    | .error e => (.error (.memory e), m)
    | .ok memory => (.ok (), { m with memory, registers := m.registers.setWord .sp sp })

/-- The word on top of the stack. -/
def top (m : Machine κ) : Except Fault Word :=
  let sp := m.registers.word .sp
  if sp = 0 then .error .stackUnderflow else (m.memory.read16 (slot sp)).mapError .memory

def pop (m : Machine κ) : Except Fault Word × Machine κ :=
  match m.top with
  | .error f => (.error f, m)
  | .ok value => (.ok value, m.setWord .sp (m.registers.word .sp - 2))

def describe (m : Machine κ) : String :=
  let program := Quoted.text m.program
  let ip := Hex.marked 4 m.ip.toNat
  let state := m.status.describe
  let registers := m.registers.describe
  s!"Computer \x7b program: {program}, ip: {ip}, state: {state}, registers: {registers}, "
    ++ "memory: [...] \x7d"

end Machine

end Micro86
