import Micro86.Proofs.Invariant

/-!
# Which fault a step has

`Due m f` says, in terms of the bytes at the next instruction, SP and AH, when the fault `f` is due.
`faults_are_due`: on a buffer the steps of every session fail with the fault that is due, and
succeed when none is. That the stack never gives a memory error is because SP is even.
-/

namespace Micro86.Machine

variable {κ : Type}

/-- The faults of the next instruction, which starts with the byte at `m.ip`. -/
inductive Due (m : Machine κ) : Fault → Prop where
  | invalidOpcode {b : UInt8} (opcode : m.memory.cells[m.ip.toNat]? = some b)
      (unknown : ∀ o : Opcode, o.byte ≠ b) :
      Due m (.invalidOpcode b (m.memory.cells[m.ip.toNat + 1]?.getD 0)
        (m.ip.toNat - programStart.toNat))
  | cutOff {o : Opcode} (opcode : m.memory.cells[m.ip.toNat]? = some o.byte)
      (cut : memorySize ≤ m.ip.toNat + o.operandSize) : Due m (.memory (.outOfBounds 0x10000))
  | stackUnderflow (opcode : m.memory.cells[m.ip.toNat]? = some Opcode.ret.byte)
      (empty : (m.registers.word .sp).toNat = 0) : Due m .stackUnderflow
  | stackOverflow {b : UInt8} (opcode : m.memory.cells[m.ip.toNat]? = some Opcode.call.byte)
      (operand : m.memory.cells[m.ip.toNat + 1]? = some b)
      (full : (m.registers.word .sp).toNat = 0xFFFE) : Due m .stackOverflow
  | jmpBelow {b : UInt8} (opcode : m.memory.cells[m.ip.toNat]? = some Opcode.jmp.byte)
      (operand : m.memory.cells[m.ip.toNat + 1]? = some b)
      (below : (m.ip.toNat : Int) + 2 + b.toInt8.toInt < 0) :
      Due m (.memory (.outOfBounds (m.ip + 2)))
  | callBelow {b : UInt8} (opcode : m.memory.cells[m.ip.toNat]? = some Opcode.call.byte)
      (operand : m.memory.cells[m.ip.toNat + 1]? = some b)
      (room : (m.registers.word .sp).toNat < 0xFFFE)
      (below : (m.ip.toNat : Int) + 3 + b.toInt8.toInt < 0) :
      Due m (.memory (.outOfBounds (m.ip + 3)))
  | invalidInterrupt {number : UInt8} (opcode : m.memory.cells[m.ip.toNat]? = some Opcode.int.byte)
      (operand : m.memory.cells[m.ip.toNat + 1]? = some number)
      (noService : Service.select? number (m.registers.byte .ah) = none) :
      Due m (.invalidInterrupt number (number.toNat - 0x20) (m.registers.byte .ah))

variable [Console κ]

/-- What is due happens, on every console and whatever SP is. -/
theorem Due.step {m : Machine κ} {f : Fault} (due : Due m f) : ∃ m', Step m (.error f) m' := by
  have inside {b : UInt8} (byte : m.memory.cells[m.ip.toNat]? = some b) : m.ip.toNat < memorySize :=
    (Vector.getElem?_eq_some_iff.mp byte).1
  cases due with
  | invalidOpcode opcode unknown =>
    refine ⟨m, .unreadable ?_⟩
    exact (Instruction.fetch_eq_error_iff (inside opcode)).mpr (.inl ⟨_, opcode, unknown, rfl⟩)
  | cutOff opcode cut =>
    refine ⟨m, .unreadable ?_⟩
    exact (Instruction.fetch_eq_error_iff (inside opcode)).mpr (.inr ⟨_, opcode, cut, rfl⟩)
  | stackUnderflow opcode empty =>
    refine ⟨m, .retFails (Instruction.fetch_ret_iff.mpr opcode) ?_⟩
    exact top_eq_error_iff.mpr (.inl ⟨UInt16.toNat_inj.mp empty, rfl⟩)
  | stackOverflow opcode operand full =>
    have next := Instruction.fetch_call_iff.mpr ⟨opcode, _, operand, rfl⟩
    refine ⟨m, .callFails next (push_error_iff.mpr ⟨?_, rfl, rfl⟩)⟩
    exact pushed?_eq_none_iff.mpr (Nat.le_of_eq full.symm)
  | jmpBelow opcode operand below =>
    have next := Instruction.fetch_jmp_iff.mpr ⟨opcode, _, operand, rfl⟩
    refine ⟨m, .jmpBelow next ?_⟩
    exact (Instruction.target_next_eq_error_iff (inside opcode)).mpr ⟨below, rfl⟩
  | callBelow opcode operand room below =>
    have next := Instruction.fetch_call_iff.mpr ⟨opcode, _, operand, rfl⟩
    have room := pushed?_eq_some_iff.mpr ⟨room, rfl⟩
    obtain ⟨memory, written⟩ := write16_slot_ok room m.memory _
    refine ⟨_, .callBelow next (push_ok_iff.mpr ⟨_, memory, room, written, rfl⟩) ?_⟩
    exact (Instruction.target_next_eq_error_iff (inside opcode)).mpr ⟨below, rfl⟩
  | invalidInterrupt opcode operand noService =>
    exact ⟨m, .noService (Instruction.fetch_int_iff.mpr ⟨opcode, operand⟩) noService⟩

theorem Step.due {m m' : Machine κ} {f : Fault} (step : Step m (.error f) m')
    (inside : m.ip.toNat < memorySize) (even : (m.registers.word .sp).toNat % 2 = 0)
    (silent : ∀ text, f ≠ .console text) : Due m f := by
  generalize failed : (Except.error f : Except Fault Unit) = r at step
  cases step with
  | nop | movAh | movDx | ret | int | call | jmp => cases failed
  | unreadable next =>
    cases failed
    rcases (Instruction.fetch_eq_error_iff inside).mp next with
      ⟨b, opcode, unknown, rfl⟩ | ⟨o, opcode, cut, rfl⟩
    · exact .invalidOpcode opcode unknown
    · exact .cutOff opcode cut
  | retFails next top =>
    cases failed
    rcases top_eq_error_iff.mp top with ⟨empty, rfl⟩ | ⟨one, -⟩
    · exact .stackUnderflow (Instruction.fetch_ret_iff.mp next) (by rw [empty]; rfl)
    · -- SP = 1 would be a read across the end of memory.
      rw [one] at even
      cases even
  | intFails next selects serves =>
    cases failed
    cases serves with
    | unread | unwritten => exact absurd rfl (silent _)
  | noService next selects =>
    cases failed
    obtain ⟨opcode, operand⟩ := Instruction.fetch_int_iff.mp next
    exact .invalidInterrupt opcode operand selects
  | callFails next push =>
    cases failed
    obtain ⟨full, rfl, -⟩ := push_error_iff.mp push
    obtain ⟨opcode, b, operand, -⟩ := Instruction.fetch_call_iff.mp next
    have full := pushed?_eq_none_iff.mp full
    have := (m.registers.word .sp).toNat_lt
    exact .stackOverflow opcode operand (by omega)
  | callBelow next push target =>
    cases failed
    obtain ⟨below, rfl⟩ := (Instruction.target_next_eq_error_iff inside).mp target
    obtain ⟨opcode, b, operand, rfl⟩ := Instruction.fetch_call_iff.mp next
    obtain ⟨_, _, room, -, -⟩ := push_ok_iff.mp push
    exact .callBelow opcode operand (pushed?_eq_some_iff.mp room).1 below
  | jmpBelow next target =>
    cases failed
    obtain ⟨below, rfl⟩ := (Instruction.target_next_eq_error_iff inside).mp target
    obtain ⟨opcode, b, operand, rfl⟩ := Instruction.fetch_jmp_iff.mp next
    exact .jmpBelow opcode operand below

theorem Step.ne_console {m m' : Machine Buffer} {f : Fault} (step : Step m (.error f) m')
    (text : String) :
    f ≠ .console text := by
  rintro rfl
  obtain ⟨number, s, next, selects, serves⟩ := step.console
  cases serves.buffer

/-- Which faults arise from a machine. -/
structure Diagnosed (m : Machine Buffer) : Prop where
  fails : m.ip.toNat < memorySize → ∀ f, m.step.1 = .error f ↔ Due m f
  succeeds : m.ip.toNat < memorySize → (m.step.1 = .ok () ↔ ∀ f, ¬ Due m f)
  push : ∀ value e, (m.push value).1 ≠ .error (.memory e)
  pop : ∀ e, m.pop.1 ≠ .error (.memory e)
  run : ∀ limit f, (m.run limit).1 = .error f → (∀ text, f ≠ .console text) ∧
    ∃ n a, m.after? n = some a ∧ a.ip.toNat < memorySize ∧ Due a f

theorem Sound.step_error_iff {m : Machine Buffer} (sound : Sound m)
    (inside : m.ip.toNat < memorySize)
    {f : Fault} : m.step.1 = .error f ↔ Due m f := by
  constructor
  · intro failed
    have step := step_iff.mp (Prod.ext failed rfl : m.step = (.error f, m.step.2))
    exact step.due inside sound.sp step.ne_console
  · intro due
    obtain ⟨m', step⟩ := due.step
    rw [step.step_eq]

theorem Sound.diagnosed {m : Machine Buffer} (sound : Sound m) : Diagnosed m where
  fails inside f := sound.step_error_iff inside
  succeeds inside := by
    simp only [← sound.step_error_iff inside]
    cases m.step.1 with
    | ok => simp
    | error f => simp
  push value e failed := by
    obtain ⟨-, other, -⟩ :=
      push_error_iff.mp (Prod.ext failed rfl : m.push value = (_, (m.push value).2))
    cases other
  pop e failed := by
    have top : m.pop.1 = m.top := by
      rw [Machine.pop]
      cases m.top <;> rfl
    rw [top] at failed
    rcases top_eq_error_iff.mp failed with ⟨-, other⟩ | ⟨one, -⟩
    · cases other
    · have even := sound.sp
      rw [one] at even
      cases even
  run limit f failed := by
    have runs := run_iff.mp (Prod.ext failed rfl : m.run limit = (_, (m.run limit).2))
    obtain ⟨n, a, reached, goes, step⟩ := runs.failed
    have inside := (stop?_eq_none_iff.mp goes).2.2
    have sound := (after?_path reached).invariant (fun step sound => sound.step step) sound
    exact ⟨step.ne_console, n, a, reached, inside, step.due inside sound.sp step.ne_console⟩

/-- In every session on a buffer a step from an address in memory fails exactly with the fault that
is due, and succeeds if none is. The stack never gives a memory error, and a run fails only with a
fault that is due in a machine that it comes to. -/
theorem faults_are_due (name : String) {image : List UInt8} (console : Buffer)
    (fits : image.length ≤ maxImageSize) :
    ∃ s, load name image console = .ok s ∧ ∀ requests, Diagnosed (s.session requests) :=
  ⟨_, load_eq name console fits, fun requests =>
    ((sound_loaded name image console).session requests).diagnosed⟩

/-- A program that only returns. -/
theorem faults_are_due_ret :
    ∃ s, load "a.com" [0xC3] (Buffer.ofInput []) = .ok s ∧ s.step.1 = .error .stackUnderflow := by
  obtain ⟨s, load, diagnosed⟩ := faults_are_due "a.com" (Buffer.ofInput [])
    (show [0xC3].length ≤ maxImageSize by decide)
  have eq := eq_loaded load
  have inside : s.ip.toNat < memorySize := by
    rw [eq, ip_loaded]
    decide
  refine ⟨s, load, ((diagnosed []).fails inside _).mpr (.stackUnderflow ?_ ?_)⟩
  · rw [session, List.foldl_nil, eq, ip_loaded, cells_loaded _ _ _ (by decide)]
    rfl
  · rw [session, List.foldl_nil, eq, registers_loaded]
    decide

end Micro86.Machine
