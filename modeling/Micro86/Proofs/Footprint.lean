import Micro86.Proofs.Scan

/-!
# What a step reads

`Footprint m` are the cells of memory that a step from `m` reads. A machine that agrees with `m` on
these, and on all that is not memory, takes the same step, and in the end memory differs only where
it did before: `step_reads_footprint`.
-/

namespace Micro86

namespace Memory

variable {m n : Memory}

theorem read8_congr {a : Address} (same : n.cells[a.toNat]? = m.cells[a.toNat]?) :
    n.read8 a = m.read8 a := by
  cases read : m.read8 a with
  | error e =>
    rw [read8_eq_error_iff] at read ⊢
    exact read
  | ok b =>
    rw [read8_eq_ok_iff_getElem?] at read ⊢
    rw [same, read]

theorem read16_congr {a : Address} (low : n.cells[a.toNat]? = m.cells[a.toNat]?)
    (high : n.cells[a.toNat + 1]? = m.cells[a.toNat + 1]?) : n.read16 a = m.read16 a := by
  unfold read16
  rw [read8_congr low]
  cases first : m.read8 a with
  | error e => rfl
  | ok b =>
    obtain ⟨inside, -⟩ := read8_eq_ok_iff.mp first
    rw [← toNat_succ inside] at high
    rw [read8_congr high]

/-- The indices that a scan for `t` looks at: those up to the first `t`, and `n` of them
if there is none. -/
def Scanned (m : Memory) (t : UInt8) (n i : Nat) (j : Nat) : Prop :=
  i ≤ j ∧ j < i + n ∧ ∀ k, i ≤ k → k < j → m.cells[k]? ≠ some t

/-- What is found lies where the scan has looked. -/
theorem Found.congr {t : UInt8} {k i : Nat} {bytes : List UInt8} (found : m.Found t k i bytes)
    (same : ∀ j, m.Scanned t k i j → n.cells[j]? = m.cells[j]?) : n.Found t k i bytes := by
  -- There is no terminator before any of the bytes, nor before the one behind them.
  have looked (j : Nat) (le : j ≤ bytes.length) (lt : j < k) : m.Scanned t k i (i + j) := by
    refine ⟨Nat.le_add_right i j, Nat.add_lt_add_left lt i, ?_⟩
    intro l behind before ends
    have there := found.there (l - i) (by omega)
    rw [Nat.add_sub_cancel' behind, ends] at there
    exact found.free (List.mem_of_getElem? there.symm)
  have short := found.short
  constructor
  · exact short
  · intro j lt
    rw [same _ (looked j (Nat.le_of_lt lt) (by omega))]
    exact found.there j lt
  · exact found.free
  · rcases found.ends with full | ends
    · exact .inl full
    · by_cases full : bytes.length = k
      · exact .inl full
      · rw [same _ (looked bytes.length (Nat.le_refl _) (by omega))]
        exact .inr ends

theorem terminated_congr {start : Address} {t : UInt8}
    (same : ∀ j, m.Scanned t (reach start) start.toNat j → n.cells[j]? = m.cells[j]?) :
    n.terminated start t = m.terminated start t :=
  terminated_eq_iff.mpr ((m.found_terminated start t).congr same)

end Memory

namespace Instruction

/-- The indices that are looked at to fetch the instruction at `ip`. -/
inductive Fetched (m : Memory) (ip : Address) : Nat → Prop where
  | opcode : Fetched m ip ip.toNat
  | operand {o : Opcode} {j : Nat} (opcode : m.cells[ip.toNat]? = some o.byte)
    (lt : j < o.operandSize) :
      Fetched m ip (ip.toNat + 1 + j)
  | following {b : UInt8} (opcode : m.cells[ip.toNat]? = some b)
    (unknown : ∀ o : Opcode, o.byte ≠ b) :
      Fetched m ip (ip.toNat + 1)

/-- Operands are no more bytes than the size of the operands tells. -/
theorem read_congr {m n : Memory} {operand : Address} {o : Opcode}
    (same : ∀ j, j < o.operandSize → n.cells[operand.toNat + j]? = m.cells[operand.toNat + j]?) :
    read n operand o = read m operand o := by
  cases o with
  | nop | ret => rfl
  | movAh | int | call | jmp =>
    unfold read
    rw [Memory.read8_congr (same 0 (by decide))]
  | movDx =>
    unfold read
    rw [Memory.read16_congr (same 0 (by decide)) (same 1 (by decide))]

theorem fetch_congr {m n : Memory} {ip : Address}
    (same : ∀ i, Fetched m ip i → n.cells[i]? = m.cells[i]?) : fetch n ip = fetch m ip := by
  unfold fetch
  rw [Memory.read8_congr (same _ .opcode)]
  cases readable : m.read8 ip with
  | error e => rfl
  | ok b =>
    have opcode := Memory.read8_eq_ok_iff_getElem?.mp readable
    obtain ⟨inside, -⟩ := Memory.read8_eq_ok_iff.mp readable
    have next := toNat_succ inside
    cases known : Opcode.ofByte? b with
    | none =>
      have following := same _ (.following opcode (Opcode.byte_ne_of_ofByte? known))
      rw [← next] at following
      simp only [known, unsupported, Memory.read8_congr following]
    | some o =>
      obtain rfl := Opcode.ofByte?_eq_some_iff.mp known
      have operands : read n (ip + 1) o = read m (ip + 1) o := by
        apply read_congr
        intro j lt
        rw [next]
        exact same _ (.operand opcode lt)
      simp only [known, operands]

end Instruction

/-- A word is written over what was there before, whatever it was. -/
theorem Memory.write16_congr {m n m' n' : Memory} {a : Address} {value : Word}
    (left : m.write16 a value = .ok m') (right : n.write16 a value = .ok n') {i : Nat}
    (same : n.cells[i]? = m.cells[i]?) : n'.cells[i]? = m'.cells[i]? := by
  rw [write16_eq] at left right
  by_cases fits : a.toNat + 1 < memorySize
  · rw [if_pos fits] at left right
    cases left
    cases right
    rw [getElem?_place, getElem?_place, same]
  · rw [if_neg fits] at left
    cases left

namespace Machine

variable {κ : Type}

/-- The cells of memory that a step from `m` reads: those of the instruction, of the word on top of
the stack for a return, and of the string that is printed. -/
inductive Footprint (m : Machine κ) : Nat → Prop where
  | fetched {i : Nat} (fetched : Instruction.Fetched m.memory m.ip i) : Footprint m i
  | returns {j : Nat} (opcode : m.memory.cells[m.ip.toNat]? = some Opcode.ret.byte) (lt : j < 2) :
      Footprint m (memorySize - (m.registers.word .sp).toNat + j)
  | prints {i : Nat} (opcode : m.memory.cells[m.ip.toNat]? = some Opcode.int.byte)
      (number : m.memory.cells[m.ip.toNat + 1]? = some 0x21) (ah : m.registers.byte .ah = 0x09)
      (scanned : m.memory.Scanned 0x24 (Memory.reach (m.registers.word .dx).toUInt64)
        (m.registers.word .dx).toNat i) :
      Footprint m i

/-- Machines that differ in memory, and in the name of the program, at most. -/
structure Alongside (a b : Machine κ) : Prop where
  registers : b.registers = a.registers
  console : b.console = a.console
  ip : b.ip = a.ip
  status : b.status = a.status
  steps : b.steps = a.steps

/-- The machine with another memory, for a program of another name. -/
abbrev upon (m : Machine κ) (memory : Memory) (program : String) : Machine κ :=
  { m with memory, program }

theorem Alongside.eq_upon {a b : Machine κ} (h : Alongside a b) :
    b = a.upon b.memory b.program := by
  obtain ⟨registers, console, ip, status, steps⟩ := h
  rw [upon, ← registers, ← console, ← ip, ← status, ← steps]

theorem alongside_upon (m : Machine κ) (memory : Memory) (program : String) :
    Alongside m (m.upon memory program) :=
  ⟨rfl, rfl, rfl, rfl, rfl⟩

variable {m m' : Machine κ} {memory : Memory} (program : String)

/-- What is pushed comes to the same place. -/
theorem push_upon (memory : Memory) {value : Word} {r : Except Fault Unit}
    (push : m.push value = (r, m')) :
    ∃ memory' : Memory, (m.upon memory program).push value = (r, m'.upon memory' program) ∧
      ∀ i : Nat, memory.cells[i]? = m.memory.cells[i]? →
        memory'.cells[i]? = m'.memory.cells[i]? := by
  cases r with
  | error f =>
    obtain ⟨full, rfl, rfl⟩ := push_error_iff.mp push
    exact ⟨memory, push_error_iff.mpr ⟨full, rfl, rfl⟩, fun _ same => same⟩
  | ok =>
    obtain ⟨sp, left, room, written, rfl⟩ := push_ok_iff.mp push
    obtain ⟨right, written'⟩ := write16_slot_ok room memory value
    refine ⟨right, push_ok_iff.mpr ⟨sp, right, room, written', rfl⟩, ?_⟩
    intro i same
    exact Memory.write16_congr written written' same

section Agreement

variable (same : ∀ i : Nat, m.Footprint i → memory.cells[i]? = m.memory.cells[i]?)
include same

theorem instruction_upon : (m.upon memory program).instruction = m.instruction :=
  Instruction.fetch_congr fun i fetched => same i (.fetched fetched)

theorem top_upon (next : m.instruction = .ok .ret) : (m.upon memory program).top = m.top := by
  have opcode := Instruction.fetch_ret_iff.mp next
  have low := same _ (.returns opcode Nat.zero_lt_two)
  have high := same _ (.returns opcode Nat.one_lt_two)
  rw [← toNat_slot, Nat.add_zero] at low
  rw [← toNat_slot] at high
  have word : memory.read16 (slot (m.registers.word .sp)) =
      m.memory.read16 (slot (m.registers.word .sp)) :=
    Memory.read16_congr low high
  rw [top, top, word]

theorem printed_upon {number : UInt8} (next : m.instruction = .ok (.int number))
    (selects : m.service? number = some .printString) :
    (m.upon memory program).printed = m.printed := by
  obtain ⟨opcode, operand⟩ := Instruction.fetch_int_iff.mp next
  rw [service?, Service.select?_eq_some_iff] at selects
  rcases selects with ⟨-, other⟩ | ⟨rfl, listed⟩
  · cases other
  · have ah : m.registers.byte .ah = 0x09 := List.mem_singleton.mp listed
    apply Memory.terminated_congr
    intro j scanned
    rw [UInt16.toNat_toUInt64] at scanned
    exact same j (.prints opcode operand ah scanned)

end Agreement

variable [Console κ]

theorem Serves.upon {s : Service} {r : Except Fault Unit} (serves : Serves m s r m')
    (printed : s = .printString → (m.upon memory program).printed = m.printed) :
    Serves (m.upon memory program) s r (m'.upon memory program) := by
  have written : (m.upon memory program).written? s = m.written? s := by
    cases s with
    | printString => exact congrArg some (printed rfl)
    | terminate | readChar | writeCharEcho | writeChar | directConsole | exit => rfl
  cases serves with
  | terminate => exact .terminate
  | exit => exact .exit
  | received answer => exact .received answer
  | unread answer => exact .unread answer
  | wrote writes answer =>
    rw [← written] at writes
    have wrote := Serves.wrote writes answer
    cases s <;> exact wrote
  | unwritten writes answer =>
    rw [← written] at writes
    exact .unwritten writes answer

/-- A machine that has other bytes where the step does not look takes the same step. -/
theorem Step.upon {r : Except Fault Unit} (step : Step m r m')
    (same : ∀ i : Nat, m.Footprint i → memory.cells[i]? = m.memory.cells[i]?) :
    ∃ memory' : Memory, Step (m.upon memory program) r (m'.upon memory' program) ∧
      ∀ i : Nat, memory.cells[i]? = m.memory.cells[i]? →
        memory'.cells[i]? = m'.memory.cells[i]? := by
  have instruction := instruction_upon program same
  cases step with
  | unreadable next => exact ⟨memory, .unreadable (instruction.trans next), fun _ kept => kept⟩
  | nop next => exact ⟨memory, .nop (instruction.trans next), fun _ kept => kept⟩
  | movAh next => exact ⟨memory, .movAh (instruction.trans next), fun _ kept => kept⟩
  | movDx next => exact ⟨memory, .movDx (instruction.trans next), fun _ kept => kept⟩
  | ret next top =>
    rw [← top_upon program same next] at top
    exact ⟨memory, .ret (instruction.trans next) top, fun _ kept => kept⟩
  | retFails next top =>
    rw [← top_upon program same next] at top
    exact ⟨memory, .retFails (instruction.trans next) top, fun _ kept => kept⟩
  | int next selects serves =>
    have serves' := serves.upon program fun print =>
      printed_upon program same next (print ▸ selects)
    refine ⟨memory, .int (instruction.trans next) selects serves', ?_⟩
    intro i kept
    rw [← serves.frame.1] at kept
    exact kept
  | intFails next selects serves =>
    have serves' := serves.upon program fun print =>
      printed_upon program same next (print ▸ selects)
    refine ⟨memory, .intFails (instruction.trans next) selects serves', ?_⟩
    intro i kept
    rw [← serves.frame.1] at kept
    exact kept
  | noService next selects =>
    exact ⟨memory, .noService (instruction.trans next) selects, fun _ kept => kept⟩
  | call next push target =>
    obtain ⟨memory', push', kept⟩ := push_upon program memory push
    exact ⟨memory', .call (instruction.trans next) push' target, kept⟩
  | callFails next push =>
    obtain ⟨memory', push', kept⟩ := push_upon program memory push
    exact ⟨memory', .callFails (instruction.trans next) push', kept⟩
  | callBelow next push target =>
    obtain ⟨memory', push', kept⟩ := push_upon program memory push
    exact ⟨memory', .callBelow (instruction.trans next) push' target, kept⟩
  | jmp next target => exact ⟨memory, .jmp (instruction.trans next) target, fun _ kept => kept⟩
  | jmpBelow next target =>
    exact ⟨memory, .jmpBelow (instruction.trans next) target, fun _ kept => kept⟩

/-- A step reads only its footprint. A machine that agrees on it, and on all that is not memory,
answers the same and ends with the same registers, address, status, count and console; its memory
differs at the end only where it differed at the start. -/
theorem step_reads_footprint {a b : Machine κ} (alongside : Alongside a b)
    (same : ∀ i : Nat, a.Footprint i → b.memory.cells[i]? = a.memory.cells[i]?) :
    ∃ r a' b', a.step = (r, a') ∧ b.step = (r, b') ∧ Alongside a' b' ∧
      ∀ i : Nat, b'.memory.cells[i]? ≠ a'.memory.cells[i]? →
        b.memory.cells[i]? ≠ a.memory.cells[i]? := by
  obtain ⟨r, a', step⟩ := exists_step a
  obtain ⟨memory', step', kept⟩ := step.upon b.program same
  rw [← alongside.eq_upon] at step'
  refine ⟨r, a', a'.upon memory' b.program, step.step_eq, step'.step_eq, alongside_upon _ _ _, ?_⟩
  intro i differs before
  exact differs (kept i before)

/-- The step that prints `Hi` reads neither the byte behind the terminator nor anything further. -/
theorem greeting_agrees {i : Nat} (reads : (greeting 7).Footprint i) :
    (greeting 8).memory.cells[i]? = (greeting 7).memory.cells[i]? := by
  have ip : (greeting 7).ip.toNat = 0x100 := rfl
  have opcode : (greeting 7).memory.cells[0x100]? = some 0xCD :=
    cells_greeting 7 (by decide : 0 < 6)
  have terminator : (greeting 7).memory.cells[0x104]? = some 0x24 :=
    cells_greeting 7 (by decide : 4 < 6)
  obtain ⟨j, lt, rfl⟩ : ∃ j, j < 5 ∧ i = 0x100 + j := by
    cases reads with
    | fetched fetched =>
      cases fetched with
      | opcode => exact ⟨0, by decide, ip⟩
      | @operand o j _ lt =>
        have few : o.operandSize ≤ 2 := by cases o <;> decide
        exact ⟨1 + j, by omega, by omega⟩
      | following => exact ⟨1, by decide, by rw [ip]⟩
    | returns other =>
      rw [ip, opcode] at other
      cases other
    | prints _ _ _ scanned =>
      obtain ⟨behind, -, clear⟩ := scanned
      have dx : ((greeting 7).registers.word .dx).toNat = 0x102 := by decide
      rw [dx] at behind clear
      have before : i ≤ 0x104 := by
        apply Nat.le_of_not_lt
        intro beyond
        exact clear 0x104 (by decide) beyond terminator
      exact ⟨i - 0x100, by omega, by omega⟩
  rw [cells_greeting 7 (by omega), cells_greeting 8 (by omega)]
  obtain rfl | rfl | rfl | rfl | rfl : j = 0 ∨ j = 1 ∨ j = 2 ∨ j = 3 ∨ j = 4 := by omega
  all_goals rfl

/-- Two machines whose memories differ behind the string that they print. -/
theorem step_reads_footprint_greeting :
    (greeting 8).memory.cells[0x105]? ≠ (greeting 7).memory.cells[0x105]? ∧
      ∃ a b, (greeting 7).step = (.ok (), a) ∧ (greeting 8).step = (.ok (), b) ∧ Alongside a b := by
  have alongside : Alongside (greeting 7) (greeting 8) := ⟨rfl, rfl, rfl, rfl, rfl⟩
  obtain ⟨r, a, b, left, right, after, -⟩ := step_reads_footprint alongside fun _ => greeting_agrees
  have prints := prints_printed (m := greeting 7) (by decide)
  have printed := (prints.wrote _ rfl).2 (instruction_greeting 7)
  cases left.symm.trans printed
  refine ⟨?_, _, b, left, right, after⟩
  rw [show 0x105 = 0x100 + 5 from rfl, cells_greeting 7 (by decide), cells_greeting 8 (by decide)]
  decide

end Machine

end Micro86
