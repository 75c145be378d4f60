import Micro86.Machine.Step

/-!
# Steps in unbounded numbers

The execution of an instruction once more, where addresses and words are natural numbers and
displacements are integers. Nothing is reduced but what is meant to be: the offset that a call
saves, the address that it returns to, and what the register IP shows. A computation has no
outcome where a difference is negative, a number does not fit where it is kept, or an index lies
outside its table.
-/

namespace Micro86

/-- Computations on a machine, which may fail or have no outcome. -/
abbrev Unbounded (κ : Type) := ExceptT Fault (StateT (Machine κ) Option)

namespace Unbounded

def minus? (a b : Nat) : Option Nat :=
  if b ≤ a then some (a - b) else none

def address? (n : Nat) : Option Address :=
  if n < UInt64.size then some n.toUInt64 else none

def word? (n : Nat) : Option Word :=
  if n < UInt16.size then some n.toUInt16 else none

def byte? (n : Nat) : Option UInt8 :=
  if n < UInt8.size then some n.toUInt8 else none

/-- The first `n` items of a list that has as many. -/
def upTo? {α : Type} (xs : List α) (n : Nat) : Option (List α) :=
  if n ≤ xs.length then some (xs.take n) else none

/-- A table with a place for every byte. -/
def tabulate {α : Type} (entries : List (UInt8 × α)) : Vector (Option α) 256 :=
  entries.foldl (fun table (key, value) => table.setIfInBounds key.toNat (some value))
    (.replicate 256 none)

/-- What each byte starts. -/
def opcodes : Vector (Option Opcode) 256 :=
  tabulate (Opcode.all.map fun o => (o.byte, o))

/-- The services of each vector; the first one terminates whatever the selector. -/
def services : Vector (Vector (Option Service) 256) Service.vectorCount :=
  ((Vector.replicate Service.vectorCount (.replicate 256 none)).setIfInBounds 0
    (.replicate 256 (some .terminate))).setIfInBounds 1 (tabulate Service.dos)

/-- What is found in the table of services; a number beyond its vectors selects nothing. -/
def select? (number selector : UInt8) : Option (Option Service) :=
  match minus? number.toNat Service.vectorBase.toNat with
  | none => some none
  | some vector =>
    match services[vector]? with
    | none => some none
    | some row => row[selector.toNat]?

variable {κ : Type}

def outOfBounds {α : Type} (address : Nat) : Unbounded κ α := do
  throw (.memory (.outOfBounds (← address? address)))

def read8 (address : Nat) : Unbounded κ UInt8 := do
  match (← get).memory.cells[address]? with
  | some byte => return byte
  | none => outOfBounds address

def read16 (address : Nat) : Unbounded κ Nat := do
  let low ← read8 address
  let high ← read8 (address + 1)
  return low.toNat + 256 * high.toNat

def write8 (address value : Nat) : Unbounded κ Unit := do
  let byte ← byte? value
  let m ← get
  if h : address < memorySize then
    set { m with memory := ⟨m.memory.cells.set address byte h⟩ }
  else outOfBounds address

def write16 (address value : Nat) : Unbounded κ Unit := do
  if memorySize ≤ address + 1 then outOfBounds (address + 1)
  write8 address (value % 256)
  write8 (address + 1) (value / 256)

def word (r : Reg16) : Unbounded κ Nat := do
  return ((← get).registers.word r).toNat

def setWord (r : Reg16) (value : Nat) : Unbounded κ Unit := do
  let word ← word? value
  modify (·.setWord r word)

def push (value : Nat) : Unbounded κ Unit := do
  let sp := (← word .sp) + 2
  if UInt16.size ≤ sp then throw .stackOverflow
  write16 (← minus? memorySize sp) value
  setWord .sp sp

def pop : Unbounded κ Nat := do
  let sp ← word .sp
  if sp = 0 then throw .stackUnderflow
  let value ← read16 (← minus? memorySize sp)
  setWord .sp (← minus? sp 2)
  return value

def relative (origin : Nat) (displacement : Int) : Unbounded κ Nat := do
  let target := origin + displacement
  if target < 0 then outOfBounds origin
  return target.toNat

/-- The bytes from `start` up to the first `terminator`, at most `maxImageSize`. -/
def terminated? (m : Memory) (start : Nat) (terminator : UInt8) : Option (List UInt8) := do
  let region := m.cells.toList.drop start
  let region ← upTo? region (min region.length maxImageSize)
  upTo? region (region.findIdx (· = terminator))

variable [Console κ]

def write (bytes : List UInt8) : Unbounded κ Unit := do
  let m ← get
  let (answer, console) := Console.writeBytes m.console bytes
  set { m with console }
  match answer with
  | .ok () => return
  | .error text => throw (.console text)

def read : Unbounded κ (Option UInt8) := do
  let m ← get
  let (answer, console) := Console.readByte m.console
  set { m with console }
  match answer with
  | .ok byte => return byte
  | .error text => throw (.console text)

def serve (s : Service) : Unbounded κ Unit := do
  match s with
  | .terminate => modify (·.halt 0)
  | .readChar =>
    let byte ← read
    modify (·.setByte .al (byte.getD endOfInput))
  | .writeCharEcho | .directConsole =>
    let byte := (← get).registers.byte .dl
    write [byte]
    modify (·.setByte .al byte)
  | .writeChar => write [(← get).registers.byte .dl]
  | .printString =>
    let start ← word .dx
    write (← terminated? (← get).memory start stringTerminator)
  | .exit => modify fun m => m.halt (m.registers.byte .al)

def interrupt (number : UInt8) : Unbounded κ Unit := do
  let selector := (← get).registers.byte .ah
  match ← select? number selector with
  | some s => serve s
  | none =>
    let vector := (number.toNat : Int) - Service.vectorBase.toNat
    throw (.invalidInterrupt number vector selector)

/-- Executes what has its operands at `operand`, and tells where the next instruction is. -/
def execute (operand : Nat) : Option Opcode → Unbounded κ Nat
  | some .nop => return operand
  | some .movAh => do
    let value ← read8 operand
    modify (·.setByte .ah value)
    return operand + 1
  | some .movDx => do
    let value ← read16 operand
    setWord .dx value
    return operand + 2
  | some .ret => do
    let offset ← pop
    return (programStart.toNat + offset) % memorySize
  | some .int => do
    let number ← read8 operand
    interrupt number
    return operand + 1
  | some .call => do
    let displacement := (← read8 operand).toInt8
    let next := operand + 2
    push (((next : Int) - programStart.toNat) % memorySize).toNat
    relative next displacement.toInt
  | some .jmp => do
    let displacement := (← read8 operand).toInt8
    relative (operand + 1) displacement.toInt
  | none => do
    let ip ← minus? operand 1
    let opcode ← read8 ip
    let next := (← get).memory.cells[operand]?.getD 0
    throw (.invalidOpcode opcode next ((ip : Int) - programStart.toNat))

def arrive (next : Nat) : Unbounded κ Unit := do
  let m ← get
  set { m with ip := ← address? next, steps := ← address? (m.steps.toNat + 1) }
  setWord .ip (next % memorySize)

def step : Unbounded κ Unit := do
  let ip := (← get).ip.toNat
  let opcode ← read8 ip
  let next ← execute (ip + 1) (← opcodes[opcode.toNat]?)
  arrive next

end Unbounded

end Micro86
