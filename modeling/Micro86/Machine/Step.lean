import Micro86.Machine
import Micro86.Service

/-!
The execution of one instruction.

All operands are read before anything changes, and a service speaks to the console before it changes
a register. So a failing step changes nothing, except that a call whose target lies below address 0
has already pushed where it would return to.
-/

namespace Micro86.Machine

variable {κ : Type} [Console κ]

/-- Writes to the console, then does `f`. -/
def emit (m : Machine κ) (bytes : List UInt8) (f : Machine κ → Machine κ) :
    Except Fault Unit × Machine κ :=
  match Console.writeBytes m.console bytes with
  | (.error text, console) => (.error (.console text), { m with console })
  | (.ok (), console) => (.ok (), f { m with console })

/-- Reads a character into AL. -/
def receive (m : Machine κ) : Except Fault Unit × Machine κ :=
  match Console.readByte m.console with
  | (.error text, console) => (.error (.console text), { m with console })
  | (.ok byte, console) => (.ok (), { m with console }.setByte .al (byte.getD endOfInput))

/-- What is printed by the service that prints a string. -/
def printed (m : Machine κ) : List UInt8 :=
  m.memory.terminated (m.registers.word .dx).toUInt64 stringTerminator

def serve (m : Machine κ) : Service → Except Fault Unit × Machine κ
  | .terminate => (.ok (), m.halt 0)
  | .readChar => m.receive
  | .writeCharEcho | .directConsole =>
    let byte := m.registers.byte .dl
    m.emit [byte] (·.setByte .al byte)
  | .writeChar => m.emit [m.registers.byte .dl] id
  | .printString => m.emit m.printed id
  | .exit => (.ok (), m.halt (m.registers.byte .al))

def interrupt (m : Machine κ) (number : UInt8) : Except Fault Unit × Machine κ :=
  let selector := m.registers.byte .ah
  match Service.select? number selector with
  | some s => m.serve s
  | none => (.error (.invalidInterrupt number (Service.vector number) selector), m)

/-- Where to return to, as it is kept on the stack: relative to the program start. -/
def returnOffset (next : Address) : Word :=
  (next - programStart).toUInt16

def returnAddress (offset : Word) : Address :=
  (programStart + offset.toUInt64) % memorySize.toUInt64

/-- Carries out an instruction that ends before `next`, and tells where the following one is. -/
def execute (m : Machine κ) (next : Address) : Instruction → Except Fault Address × Machine κ
  | .nop => (.ok next, m)
  | .movAh value => (.ok next, m.setByte .ah value)
  | .movDx value => (.ok next, m.setWord .dx value)
  | .ret =>
    match m.pop with
    | (.error f, m) => (.error f, m)
    | (.ok offset, m) => (.ok (returnAddress offset), m)
  | .int number =>
    match m.interrupt number with
    | (.error f, m) => (.error f, m)
    | (.ok (), m) => (.ok next, m)
  | .call displacement =>
    match m.push (returnOffset next) with
    | (.error f, m) => (.error f, m)
    | (.ok (), m) => (Instruction.target next displacement, m)
  | .jmp displacement => (Instruction.target next displacement, m)

/-- Moves on to `ip`, which the register IP shows as an offset in the segment. -/
def arrive (m : Machine κ) (ip : Address) : Machine κ :=
  { m with ip, steps := m.steps + 1, registers := m.registers.setWord .ip ip.toUInt16 }

/-- Executes the next instruction, also on a machine that has halted. -/
def step (m : Machine κ) : Except Fault Unit × Machine κ :=
  match Instruction.fetch m.memory m.ip with
  | .error f => (.error f, m)
  | .ok instruction =>
    match m.execute (instruction.next m.ip) instruction with
    | (.error f, m) => (.error f, m)
    | (.ok ip, m) => (.ok (), m.arrive ip)

end Micro86.Machine
