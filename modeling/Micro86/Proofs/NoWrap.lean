import Micro86.Proofs.Operations
import Micro86.Proofs.Run

/-!
# Nothing wraps in a step

An instruction does in words what it does in unbounded numbers, `run_execute`. So a step comes out
the same, as long as the steps can be counted: `step_never_wraps`.
-/

namespace Micro86

namespace Machine

variable {κ : Type}

theorem push_eq_error_iff {m : Machine κ} {value : Word} {f : Fault} :
    (m.push value).1 = .error f ↔ 0xFFFE ≤ (m.registers.word .sp).toNat ∧ f = .stackOverflow := by
  rw [← pushed?_eq_none_iff]
  constructor
  · intro failed
    obtain ⟨full, rfl, -⟩ := push_error_iff.mp (Prod.ext failed rfl : m.push value = (.error f, _))
    exact ⟨full, rfl⟩
  · rintro ⟨full, rfl⟩
    exact congrArg Prod.fst (push_error_iff.mpr ⟨full, rfl, rfl⟩)

theorem pop_eq_error_iff {m : Machine κ} {f : Fault} :
    m.pop.1 = .error f ↔
      m.registers.word .sp = 0 ∧ f = .stackUnderflow ∨
        m.registers.word .sp = 1 ∧ f = .memory (.outOfBounds stackTop) := by
  rw [← top_eq_error_iff, pop]
  cases m.top <;> simp

variable [Console κ]

/-- The next instruction, up to where it moves on. -/
def advance (m : Machine κ) : Except Fault Address × Machine κ :=
  match m.instruction with
  | .error f => (.error f, m)
  | .ok i => m.execute (i.next m.ip) i

theorem step_eq_advance (m : Machine κ) :
    m.step = match m.advance with
      | (.error f, m) => (.error f, m)
      | (.ok ip, m) => (.ok (), m.arrive ip) := by
  rw [step, advance, instruction]
  cases Instruction.fetch m.memory m.ip <;> rfl

theorem steps_of_advance {m m' : Machine κ} {goal : Address} (h : m.advance = (.ok goal, m')) :
    m'.steps = m.steps := by
  have step : m.step = (.ok (), m'.arrive goal) := by rw [step_eq_advance, h]
  have counts := step_counts (step_iff.mp step)
  exact (UInt64.add_left_inj 1).mp counts

end Machine

namespace Unbounded

variable {κ : Type} [Console κ] {m : Machine κ}

theorem terminated?_eq (memory : Memory) (start : Address) (terminator : UInt8) :
    terminated? memory start.toNat terminator = some (memory.terminated start terminator) := by
  have prior (region : List UInt8) :
      upTo? region (region.findIdx (· = terminator)) =
        some (region.takeWhile (· ≠ terminator)) := by
    rw [upTo?_of_le List.findIdx_le_length, List.takeWhile_eq_take_findIdx_not]
    simp
  rw [Memory.terminated_eq, terminated?, upTo?_of_le (Nat.min_le_left _ _), Nat.min_comm,
    ← List.take_eq_take_min]
  exact prior _

theorem run_write (bytes : List UInt8) :
    (write bytes : Unbounded κ Unit).run.run m = some (m.emit bytes id) := by
  rw [write, run_bind_ok run_get, Machine.emit]
  rcases Console.writeBytes m.console bytes with ⟨_ | _, console⟩ <;> rfl

theorem run_emit (bytes : List UInt8) (f : Machine κ → Machine κ) :
    (write bytes >>= fun _ => modify f : Unbounded κ Unit).run.run m = some (m.emit bytes f) := by
  have writes := run_write (m := m) bytes
  rw [Machine.emit] at writes ⊢
  rcases answer : Console.writeBytes m.console bytes with ⟨_ | _, console⟩
  · rw [answer] at writes
    exact run_bind_error writes
  · rw [answer] at writes
    exact run_bind_ok writes

theorem run_receive :
    (read >>= fun byte => modify (·.setByte .al (byte.getD endOfInput)) :
      Unbounded κ Unit).run.run m = some m.receive := by
  rw [Machine.receive]
  rcases answer : Console.readByte m.console with ⟨_ | byte, console⟩
  · apply run_bind_error
    rw [read, run_bind_ok run_get, answer]
    rfl
  · have answers : (read : Unbounded κ (Option UInt8)).run.run m =
        some (.ok byte, { m with console }) := by
      rw [read, run_bind_ok run_get, answer]
      rfl
    exact run_bind_ok answers

theorem run_serve (s : Service) : (serve s : Unbounded κ Unit).run.run m = some (m.serve s) := by
  cases s with
  | terminate | exit => rfl
  | readChar => exact run_receive
  | writeCharEcho | directConsole =>
    rw [serve, run_bind_ok run_get]
    exact run_emit _ _
  | writeChar =>
    rw [serve, run_bind_ok run_get]
    exact run_write _
  | printString =>
    have bytes := terminated?_eq m.memory (m.registers.word .dx).toUInt64 stringTerminator
    rw [UInt16.toNat_toUInt64] at bytes
    rw [serve, run_bind_ok (run_word .dx), run_bind_ok run_get, run_bind_ok (run_lift bytes)]
    exact run_write _

theorem run_interrupt (number : UInt8) :
    (interrupt number : Unbounded κ Unit).run.run m = some (m.interrupt number) := by
  rw [interrupt, run_bind_ok run_get, run_bind_ok (run_lift (select?_eq _ _)),
    Machine.interrupt]
  cases Service.select? number (m.registers.byte .ah) with
  | none => rfl
  | some s => exact run_serve s

/-- A result with the address as a number. -/
def numeric (r : Except Fault Address × Machine κ) : Except Fault Nat × Machine κ :=
  (r.1.map UInt64.toNat, r.2)

theorem advance_eq {o : Opcode} (opcode : m.memory.read8 m.ip = .ok o.byte) :
    m.advance =
      match Instruction.read m.memory (m.ip + 1) o with
      | .error e => (.error (.memory e), m)
      | .ok i => m.execute (i.next m.ip) i := by
  have fetch : m.instruction = (Instruction.read m.memory (m.ip + 1) o).mapError .memory := by
    simp only [Machine.instruction, Instruction.fetch, opcode, Opcode.ofByte?_byte]
  rw [Machine.advance, fetch]
  cases Instruction.read m.memory (m.ip + 1) o <;> rfl

/-- An instruction with one byte for operand. -/
theorem run_operand {o : Opcode} {make : UInt8 → Instruction} {f : UInt8 → Unbounded κ Nat}
    (opcode : m.memory.read8 m.ip = .ok o.byte)
    (read : Instruction.read m.memory (m.ip + 1) o = (m.memory.read8 (m.ip + 1)).map make)
    (runs : ∀ b, (f b).run.run m = some (numeric (m.execute ((make b).next m.ip) (make b)))) :
    (read8 (m.ip + 1).toNat >>= f).run.run m = some (numeric m.advance) := by
  have reads := run_read8 (m := m) (m.ip + 1)
  rw [advance_eq opcode, read]
  cases byte : m.memory.read8 (m.ip + 1) with
  | error e =>
    rw [byte] at reads
    exact run_bind_error reads
  | ok b =>
    rw [byte] at reads
    rw [run_bind_ok reads]
    exact runs b

theorem run_ret (next : Address) :
    (execute next.toNat (some .ret) : Unbounded κ Nat).run.run m =
      some (numeric (m.execute next .ret)) := by
  rw [execute, Machine.execute]
  have pops := run_pop (m := m)
  generalize m.pop = r at pops ⊢
  rcases r with ⟨_ | offset, popped⟩
  · exact run_bind_error pops
  · rw [run_bind_ok pops]
    show some (Except.ok ((programStart.toNat + offset.toNat) % memorySize), popped) = _
    rw [← Machine.toNat_returnAddress]
    rfl

theorem run_int {operand next : Address} (behind : next.toNat = operand.toNat + 1)
    (number : UInt8) :
    (do interrupt number; return operand.toNat + 1 : Unbounded κ Nat).run.run m =
      some (numeric (m.execute next (.int number))) := by
  rw [Machine.execute, ← behind]
  have serves := run_interrupt (m := m) number
  generalize m.interrupt number = r at serves ⊢
  rcases r with ⟨_ | _, served⟩
  · exact run_bind_error serves
  · exact run_bind_ok serves

theorem run_call {operand next : Address} (behind : next.toNat = operand.toNat + 2)
    (near : next.toNat ≤ memorySize + 2) (displacement : Int8) :
    (do push ((((operand.toNat + 2 : Nat) : Int) - programStart.toNat) % memorySize).toNat
        relative (operand.toNat + 2) displacement.toInt : Unbounded κ Nat).run.run m =
      some (numeric (m.execute next (.call displacement))) := by
  rw [Machine.execute, ← behind, toNat_saved]
  have pushes := run_push (m := m) (Machine.returnOffset next)
  generalize m.push (Machine.returnOffset next) = r at pushes ⊢
  rcases r with ⟨_ | _, pushed⟩
  · exact run_bind_error pushes
  · rw [run_bind_ok pushes]
    exact run_relative near displacement

/-- An instruction is executed as it is after it was read as a whole. -/
theorem run_execute {o : Opcode} (opcode : m.memory.read8 m.ip = .ok o.byte) :
    (execute (m.ip.toNat + 1) (some o) : Unbounded κ Nat).run.run m = some (numeric m.advance) := by
  obtain ⟨inside, -⟩ := Memory.read8_eq_ok_iff.mp opcode
  have operand := toNat_succ inside
  have next (i : Instruction) : (i.next m.ip).toNat = m.ip.toNat + i.opcode.size :=
    Instruction.toNat_next inside
  -- The opcode is in memory, so nothing behind it is near the last address.
  have near (i : Instruction) : (i.next m.ip).toNat ≤ memorySize + 2 := by
    have small := (Instruction.size_le i.opcode).2
    rw [next]
    omega
  rw [← operand]
  cases o with
  | nop =>
    rw [advance_eq opcode]
    rfl
  | movAh =>
    refine run_operand opcode rfl fun value => ?_
    have behind : ((Instruction.movAh value).next m.ip).toNat = (m.ip + 1).toNat + 1 := by
      rw [next, operand]
      rfl
    rw [← behind]
    rfl
  | movDx =>
    have reads := run_read16 (m := m) (m.ip + 1)
    rw [execute, advance_eq opcode, Instruction.read]
    cases word : m.memory.read16 (m.ip + 1) with
    | error e =>
      rw [word] at reads
      exact run_bind_error reads
    | ok value =>
      have behind : ((Instruction.movDx value).next m.ip).toNat = (m.ip + 1).toNat + 2 := by
        rw [next, operand]
        rfl
      rw [word] at reads
      rw [run_bind_ok reads, ← behind]
      exact run_bind_ok (run_setWord .dx value)
  | ret =>
    rw [advance_eq opcode]
    exact run_ret (m.ip + 1)
  | int =>
    refine run_operand opcode rfl fun number => run_int ?_ number
    rw [next, operand]
    rfl
  | call =>
    refine run_operand opcode rfl fun displacement => run_call ?_ (near _) displacement.toInt8
    rw [next, operand]
    rfl
  | jmp =>
    refine run_operand opcode rfl fun displacement => ?_
    have behind : ((Instruction.jmp displacement.toInt8).next m.ip).toNat =
        (m.ip + 1).toNat + 1 := by
      rw [next, operand]
      rfl
    rw [← behind]
    exact run_relative (near _) displacement.toInt8

/-- A byte that starts no instruction is reported with its offset, which may be negative. -/
theorem run_invalid {opcode : UInt8} (read : m.memory.read8 m.ip = .ok opcode)
    (unknown : Opcode.ofByte? opcode = none) :
    (execute (m.ip.toNat + 1) none : Unbounded κ Nat).run.run m = some (numeric m.advance) := by
  have reads := run_read8 (m := m) m.ip
  obtain ⟨inside, -⟩ := Memory.read8_eq_ok_iff.mp read
  have other := Opcode.byte_ne_of_ofByte? unknown
  have fault := (Instruction.fetch_eq_error_iff inside).mpr
    (.inl ⟨opcode, Memory.read8_eq_ok_iff_getElem?.mp read, other, rfl⟩)
  rw [read] at reads
  rw [execute, run_bind_ok (run_lift (minus?_of_le (Nat.le_add_left 1 _))), Nat.add_sub_cancel,
    run_bind_ok reads, run_bind_ok run_get, Machine.advance, Machine.instruction, fault]
  rfl

theorem run_step (room : m.steps.toNat + 1 < UInt64.size) :
    (step : Unbounded κ Unit).run.run m = some m.step := by
  have reads := run_read8 (m := m) m.ip
  rw [step, run_bind_ok run_get, Machine.step_eq_advance]
  cases read : m.memory.read8 m.ip with
  | error e =>
    rw [read] at reads
    rw [run_bind_error reads, Machine.advance, Machine.instruction, Instruction.fetch, read]
  | ok opcode =>
    have executes : (execute (m.ip.toNat + 1) (Opcode.ofByte? opcode) : Unbounded κ Nat).run.run m =
        some (numeric m.advance) := by
      cases known : Opcode.ofByte? opcode with
      | none => exact run_invalid read known
      | some o =>
        obtain rfl := Opcode.ofByte?_eq_some_iff.mp known
        exact run_execute read
    rw [read] at reads
    rw [run_bind_ok reads, run_bind_ok (run_lift (opcodes_eq opcode))]
    rcases advance : m.advance with ⟨_ | goal, m'⟩
    · rw [advance] at executes
      exact run_bind_error executes
    · rw [advance] at executes
      rw [run_bind_ok executes]
      exact run_arrive goal (by rw [Machine.steps_of_advance advance]; exact room)

end Unbounded

namespace Machine

variable {κ : Type} [Console κ]

/-- Nothing wraps in a step, whatever the machine, while the count of steps has room for one more.
The step in unbounded numbers has an outcome, and it is the same. So it is for a push of any word
and for a pop. A push fails only for want of room, and a pop only at the bottom of the stack. -/
theorem step_never_wraps (m : Machine κ) (room : m.steps.toNat < UInt64.size - 1) :
    (Unbounded.step : Unbounded κ Unit).run.run m = some m.step ∧
      (∀ value : Word, (Unbounded.push value.toNat : Unbounded κ Unit).run.run m =
        some (m.push value)) ∧
      (Unbounded.pop : Unbounded κ Nat).run.run m = some (m.pop.1.map UInt16.toNat, m.pop.2) ∧
      (∀ value f, (m.push value).1 = .error f ↔
        0xFFFE ≤ (m.registers.word .sp).toNat ∧ f = .stackOverflow) ∧
      ∀ f, m.pop.1 = .error f ↔
        m.registers.word .sp = 0 ∧ f = .stackUnderflow ∨
          m.registers.word .sp = 1 ∧ f = .memory (.outOfBounds 0x10000) := by
  refine ⟨Unbounded.run_step (Nat.add_lt_of_lt_sub room), fun value => Unbounded.run_push value,
    Unbounded.run_pop, fun _ _ => push_eq_error_iff, fun _ => pop_eq_error_iff⟩

/-- One byte on the stack is no word. -/
theorem step_never_wraps_one_byte :
    ∃ m : Machine Buffer, m.registers.word .sp = 1 ∧ m.steps.toNat < UInt64.size - 1 ∧
      (Unbounded.step : Unbounded Buffer Unit).run.run m = some m.step ∧
      m.pop.1 = .error (.memory (.outOfBounds 0x10000)) := by
  refine ⟨(start (Buffer.ofInput [])).setWord .sp 1, by decide, by decide, ?_⟩
  obtain ⟨step, -, -, -, pops⟩ :=
    step_never_wraps ((start (Buffer.ofInput [])).setWord .sp 1) (by decide)
  exact ⟨step, (pops _).mpr (.inr ⟨by decide, rfl⟩)⟩

end Machine

end Micro86
