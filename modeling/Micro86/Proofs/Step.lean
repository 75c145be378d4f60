import Micro86.Machine.Step
import Micro86.Proofs.Registers

/-!
# What a step can do

`Step m r m'` lists the ways in which a step from `m` can answer `r` and leave `m'`, one rule for
each instruction and each way to fail; `Serves` does the same for a service. `step_iff`: the rules
are what `step` computes. All that is proved about steps goes through them.
-/

namespace Micro86.Machine

variable {κ : Type} [Console κ]

/-- What comes next, if it can be read. -/
abbrev instruction (m : Machine κ) : Except Fault Instruction :=
  Instruction.fetch m.memory m.ip

/-- What a service writes to the console, if it does. -/
def written? (m : Machine κ) : Service → Option (List UInt8)
  | .writeCharEcho | .writeChar | .directConsole => some [m.registers.byte .dl]
  | .printString => some m.printed
  | .terminate | .readChar | .exit => none

/-- What a service that has written returns in AL. -/
def echo (m : Machine κ) : Service → Machine κ
  | .writeCharEcho | .directConsole => m.setByte .al (m.registers.byte .dl)
  | _ => m

inductive Serves (m : Machine κ) : Service → Except Fault Unit → Machine κ → Prop where
  | terminate : Serves m .terminate (.ok ()) (m.halt 0)
  | exit : Serves m .exit (.ok ()) (m.halt (m.registers.byte .al))
  | received {byte : Option UInt8} {console : κ}
      (answer : Console.readByte m.console = (.ok byte, console)) :
      Serves m .readChar (.ok ()) ({ m with console }.setByte .al (byte.getD endOfInput))
  | unread {text : String} {console : κ}
      (answer : Console.readByte m.console = (.error text, console)) :
      Serves m .readChar (.error (.console text)) { m with console }
  | wrote {s : Service} {bytes : List UInt8} {console : κ} (writes : m.written? s = some bytes)
      (answer : Console.writeBytes m.console bytes = (.ok (), console)) :
      Serves m s (.ok ()) ({ m with console }.echo s)
  | unwritten {s : Service} {bytes : List UInt8} {text : String} {console : κ}
      (writes : m.written? s = some bytes)
      (answer : Console.writeBytes m.console bytes = (.error text, console)) :
      Serves m s (.error (.console text)) { m with console }

theorem Serves.serve_eq {m m' : Machine κ} {s : Service} {r : Except Fault Unit}
    (h : Serves m s r m') : m.serve s = (r, m') := by
  cases h with
  | terminate | exit => rfl
  | received answer | unread answer => simp only [serve, receive, answer]
  | wrote writes answer | unwritten writes answer =>
    cases s with
    | writeCharEcho | directConsole | writeChar | printString =>
      cases writes
      simp only [serve, emit, answer, echo, id_eq]
    | terminate | readChar | exit => cases writes

theorem exists_serves (m : Machine κ) (s : Service) : ∃ r m', Serves m s r m' := by
  have wrote {bytes : List UInt8} (writes : m.written? s = some bytes) :
      ∃ r m', Serves m s r m' := by
    obtain ⟨r, console, answer⟩ : ∃ r console, Console.writeBytes m.console bytes = (r, console) :=
      ⟨_, _, rfl⟩
    cases r with
    | error => exact ⟨_, _, .unwritten writes answer⟩
    | ok => exact ⟨_, _, .wrote writes answer⟩
  cases s with
  | terminate => exact ⟨_, _, .terminate⟩
  | exit => exact ⟨_, _, .exit⟩
  | readChar =>
    obtain ⟨r, console, answer⟩ : ∃ r console, Console.readByte m.console = (r, console) :=
      ⟨_, _, rfl⟩
    cases r with
    | error => exact ⟨_, _, .unread answer⟩
    | ok => exact ⟨_, _, .received answer⟩
  | writeCharEcho | directConsole | writeChar | printString => exact wrote rfl

/-- A service changes the console, the status and AL at most. -/
theorem Serves.frame {m m' : Machine κ} {s : Service} {r : Except Fault Unit}
    (h : Serves m s r m') :
    m'.memory = m.memory ∧ m'.ip = m.ip ∧ m'.steps = m.steps ∧ m'.program = m.program ∧
      ∃ byte, m'.registers = m.registers.setByte .al byte := by
  have same : ∃ byte, m.registers = m.registers.setByte .al byte :=
    ⟨_, (m.registers.setByte_byte .al).symm⟩
  cases h with
  | terminate | exit | unread | unwritten => exact ⟨rfl, rfl, rfl, rfl, same⟩
  | received => exact ⟨rfl, rfl, rfl, rfl, _, rfl⟩
  | wrote =>
    cases s with
    | writeCharEcho | directConsole => exact ⟨rfl, rfl, rfl, rfl, _, rfl⟩
    | terminate | readChar | writeChar | printString | exit => exact ⟨rfl, rfl, rfl, rfl, same⟩

/-- The service that an `INT` selects. -/
def service? (m : Machine κ) (number : UInt8) : Option Service :=
  Service.select? number (m.registers.byte .ah)

inductive Step (m : Machine κ) : Except Fault Unit → Machine κ → Prop where
  | unreadable {f : Fault} (next : m.instruction = .error f) : Step m (.error f) m
  | nop (next : m.instruction = .ok .nop) :
      Step m (.ok ()) (m.arrive (Instruction.nop.next m.ip))
  | movAh {value : UInt8} (next : m.instruction = .ok (.movAh value)) :
      Step m (.ok ()) ((m.setByte .ah value).arrive ((Instruction.movAh value).next m.ip))
  | movDx {value : Word} (next : m.instruction = .ok (.movDx value)) :
      Step m (.ok ()) ((m.setWord .dx value).arrive ((Instruction.movDx value).next m.ip))
  | ret {offset : Word} (next : m.instruction = .ok .ret) (top : m.top = .ok offset) :
      Step m (.ok ())
        ((m.setWord .sp (m.registers.word .sp - 2)).arrive (returnAddress offset))
  | retFails {f : Fault} (next : m.instruction = .ok .ret) (top : m.top = .error f) :
      Step m (.error f) m
  | int {number : UInt8} {s : Service} {served : Machine κ}
      (next : m.instruction = .ok (.int number)) (selects : m.service? number = some s)
      (serves : Serves m s (.ok ()) served) :
      Step m (.ok ()) (served.arrive ((Instruction.int number).next m.ip))
  | intFails {number : UInt8} {s : Service} {f : Fault} {served : Machine κ}
      (next : m.instruction = .ok (.int number)) (selects : m.service? number = some s)
      (serves : Serves m s (.error f) served) : Step m (.error f) served
  | noService {number : UInt8} (next : m.instruction = .ok (.int number))
      (selects : m.service? number = none) :
      Step m (.error (.invalidInterrupt number (Service.vector number) (m.registers.byte .ah))) m
  | call {displacement : Int8} {pushed : Machine κ} {goal : Address}
      (next : m.instruction = .ok (.call displacement))
      (push : m.push (returnOffset ((Instruction.call displacement).next m.ip)) = (.ok (), pushed))
      (target : Instruction.target ((Instruction.call displacement).next m.ip) displacement =
        .ok goal) :
      Step m (.ok ()) (pushed.arrive goal)
  | callFails {displacement : Int8} {f : Fault} {pushed : Machine κ}
      (next : m.instruction = .ok (.call displacement))
      (push : m.push (returnOffset ((Instruction.call displacement).next m.ip)) =
        (.error f, pushed)) :
      Step m (.error f) pushed
  | callBelow {displacement : Int8} {f : Fault} {pushed : Machine κ}
      (next : m.instruction = .ok (.call displacement))
      (push : m.push (returnOffset ((Instruction.call displacement).next m.ip)) = (.ok (), pushed))
      (target : Instruction.target ((Instruction.call displacement).next m.ip) displacement =
        .error f) :
      Step m (.error f) pushed
  | jmp {displacement : Int8} {goal : Address} (next : m.instruction = .ok (.jmp displacement))
      (target : Instruction.target ((Instruction.jmp displacement).next m.ip) displacement =
        .ok goal) :
      Step m (.ok ()) (m.arrive goal)
  | jmpBelow {displacement : Int8} {f : Fault} (next : m.instruction = .ok (.jmp displacement))
      (target : Instruction.target ((Instruction.jmp displacement).next m.ip) displacement =
        .error f) :
      Step m (.error f) m

theorem Step.step_eq {m m' : Machine κ} {r : Except Fault Unit} (h : Step m r m') :
    m.step = (r, m') := by
  cases h with
  | unreadable next | nop next | movAh next | movDx next => simp only [step, next, execute]
  | ret next top | retFails next top => simp only [step, next, execute, pop, top]
  | int next selects serves | intFails next selects serves =>
    rw [service?] at selects
    simp only [step, next, execute, interrupt, selects, serves.serve_eq]
  | noService next selects =>
    rw [service?] at selects
    simp only [step, next, execute, interrupt, selects]
  | call next push target | callBelow next push target =>
    simp only [step, next, execute, push, target]
  | callFails next push => simp only [step, next, execute, push]
  | jmp next target | jmpBelow next target => simp only [step, next, execute, target]

/-- No machine is without a rule. -/
theorem exists_step (m : Machine κ) : ∃ r m', Step m r m' := by
  cases next : m.instruction with
  | error => exact ⟨_, _, .unreadable next⟩
  | ok i =>
    cases i with
    | nop => exact ⟨_, _, .nop next⟩
    | movAh => exact ⟨_, _, .movAh next⟩
    | movDx => exact ⟨_, _, .movDx next⟩
    | ret =>
      cases top : m.top with
      | error => exact ⟨_, _, .retFails next top⟩
      | ok => exact ⟨_, _, .ret next top⟩
    | int number =>
      cases selects : m.service? number with
      | none => exact ⟨_, _, .noService next selects⟩
      | some s =>
        obtain ⟨r, served, serves⟩ := exists_serves m s
        cases r with
        | error => exact ⟨_, _, .intFails next selects serves⟩
        | ok => exact ⟨_, _, .int next selects serves⟩
    | call displacement =>
      obtain ⟨r, pushed, push⟩ :
          ∃ r pushed, m.push (returnOffset ((Instruction.call displacement).next m.ip)) =
            (r, pushed) :=
        ⟨_, _, rfl⟩
      cases r with
      | error => exact ⟨_, _, .callFails next push⟩
      | ok =>
        let origin := (Instruction.call displacement).next m.ip
        cases target : Instruction.target origin displacement with
        | error => exact ⟨_, _, .callBelow next push target⟩
        | ok => exact ⟨_, _, .call next push target⟩
    | jmp displacement =>
      cases target : Instruction.target ((Instruction.jmp displacement).next m.ip) displacement with
      | error => exact ⟨_, _, .jmpBelow next target⟩
      | ok => exact ⟨_, _, .jmp next target⟩

theorem step_iff {m m' : Machine κ} {r : Except Fault Unit} : m.step = (r, m') ↔ Step m r m' := by
  constructor
  · intro h
    obtain ⟨r', m'', step⟩ := exists_step m
    rw [step.step_eq, Prod.mk.injEq] at h
    obtain ⟨rfl, rfl⟩ := h
    exact step
  · exact Step.step_eq

end Micro86.Machine
