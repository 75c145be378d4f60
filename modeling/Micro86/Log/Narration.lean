import Micro86.Log.Record
import Micro86.Machine.Run

/-!
What the log tells about a machine at work.

The records of an instruction are known before it is executed, and all of them come before anything
it writes to the console.
-/

namespace Micro86.Log

namespace Target

def machine : String := "emu8086::runtime"

def instructions : String := "emu8086::runtime::instructions"

def services : String := "emu8086::runtime::interrupts"

end Target

def loadSpan (name : String) : Span :=
  { name := "with_program", level := .info, target := Target.machine,
    fields := [⟨"name", .quoted name⟩] }

def runSpan (limit : UInt64) (program : String) : Span :=
  { name := "run", level := .info, target := Target.machine,
    fields := [⟨"step_limit", .number limit.toNat⟩, ⟨"program", .text program⟩] }

def executeSpan (o : Option Opcode) (operand : Address) : Span :=
  { name := "execute", level := .trace, target := Target.instructions,
    fields := [⟨"self", .text (Opcode.shownLabel o)⟩, ⟨"operand", .text (toString operand.toNat)⟩] }

def loaded (name : String) (size : Nat) : Record :=
  { level := .info, target := Target.machine, message := "Loaded program",
    fields := [⟨"program", .quoted name⟩, ⟨"size", .number size⟩], spans := [loadSpan name] }

/-- Where the instruction pointer goes other than to the next instruction. -/
def transfer (what : String) (target : Address) : Record :=
  let address := Hex.marked 0 target.toNat
  { level := .debug, target := Target.instructions, message := s!"{what} {address}" }

def stackChange (what : String) (sp value : Word) : Record :=
  { level := .debug, target := Target.machine, message := what,
    fields := [⟨"sp", .number sp.toNat⟩, ⟨"value", .number value.toNat⟩] }

def selected (number selector : UInt8) : Record :=
  { level := .debug, target := Target.machine,
    message := Service.shownTitle (Service.select? number selector),
    fields := [⟨"number", .number number.toNat⟩, ⟨"service", .number selector.toNat⟩] }

def terminated (program : String) (code : List Field) : Record :=
  { level := .info, target := Target.services, message := "Program terminated",
    fields := ⟨"program", .text program⟩ :: code }

variable {κ : Type}

/-- The records of a service; only those that stop the program have one. -/
def serviceRecords (m : Machine κ) : Option Service → List Record
  | some .terminate => [terminated m.program []]
  | some .exit => [terminated m.program [⟨"code", .number (m.registers.byte .al).toNat⟩]]
  | _ => []

/-- The record of a jump, unless it fails. -/
def transferRecords (what : String) (next : Address) (displacement : Int8) : List Record :=
  match Instruction.target next displacement with
  | .ok target => [transfer what target]
  | .error _ => []

def instructionRecords (m : Machine κ) (next : Address) : Instruction → List Record
  | .nop | .movAh _ | .movDx _ => []
  | .ret =>
    match m.top with
    | .error _ => []
    | .ok offset =>
      [stackChange "pop" (m.registers.word .sp - 2) offset,
        transfer "Returning to" (Machine.returnAddress offset)]
  | .int number =>
    let selector := m.registers.byte .ah
    selected number selector :: serviceRecords m (Service.select? number selector)
  | .call displacement =>
    match m.pushed? with
    | none => []
    | some sp =>
      stackChange "push" sp (Machine.returnOffset next)
        :: transferRecords "Calling" next displacement
  | .jmp displacement => transferRecords "Jumping to" next displacement

def fetched (ip : Address) (opcode : UInt8) : Record :=
  { level := .trace, target := Target.machine,
    message := Opcode.shownMnemonic (Opcode.ofByte? opcode),
    fields := [⟨"ip", .number ip.toNat⟩, ⟨"opcode", .number opcode.toNat⟩] }

/-- The records of the next instruction of a run up to `limit`. -/
def stepRecords (limit : UInt64) (m : Machine κ) : List Record :=
  match m.memory.read8 m.ip with
  | .error _ => []
  | .ok opcode =>
    let run := runSpan limit m.program
    let within := [run, executeSpan (Opcode.ofByte? opcode) (m.ip + 1)]
    let records :=
      match Instruction.fetch m.memory m.ip with
      | .error _ => []
      | .ok i => instructionRecords m (i.next m.ip) i
    { fetched m.ip opcode with spans := [run] } :: records.map fun r => { r with spans := within }

/-- The records of a run that stops for `outcome`. -/
def outcomeRecords (limit : UInt64) (m : Machine κ) : Outcome → List Record
  | .halted _ => []
  | .stepLimit =>
    [{ level := .warn, target := Target.machine, message := "Step limit reached, stopping",
       fields := [⟨"steps", .number m.steps.toNat⟩], spans := [runSpan limit m.program] }]
  | .endOfMemory =>
    [{ level := .warn, target := Target.machine,
       message := "Instruction pointer left memory, stopping",
       fields := [⟨"ip", .number m.ip.toNat⟩], spans := [runSpan limit m.program] }]

end Micro86.Log
