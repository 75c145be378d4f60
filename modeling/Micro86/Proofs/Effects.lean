import Micro86.Proofs.Stack
import Micro86.Proofs.Step

/-!
# What a step changes

`Changes m i rs`: an instruction that succeeds leaves the registers `rs`, which differ in one place
at most. Memory is changed by the push of a call only.
-/

namespace Micro86

/-- Whether a service returns a character in AL. -/
def Service.answers : Service → Bool
  | .readChar | .writeCharEcho | .directConsole => true
  | .terminate | .writeChar | .printString | .exit => false

theorem Service.answers_iff {s : Service} :
    s.answers ↔ s = .readChar ∨ s = .writeCharEcho ∨ s = .directConsole := by
  cases s <;> decide

/-- How many bytes an instruction pushes. -/
def Instruction.pushed : Instruction → Nat
  | .call _ => 2
  | _ => 0

/-- How many bytes an instruction pops. -/
def Instruction.popped : Instruction → Nat
  | .ret => 2
  | _ => 0

namespace Machine

variable {κ : Type}

/-- The registers after an instruction, IP apart. -/
inductive Changes (m : Machine κ) : Instruction → Registers → Prop where
  | nop : Changes m .nop m.registers
  | movAh (value : UInt8) : Changes m (.movAh value) (m.registers.setByte .ah value)
  | movDx (value : Word) : Changes m (.movDx value) (m.registers.setWord .dx value)
  | ret (full : 2 ≤ (m.registers.word .sp).toNat) :
      Changes m .ret (m.registers.setWord .sp (m.registers.word .sp - 2))
  | answered {number : UInt8} {s : Service} (selects : m.service? number = some s)
      (answers : s.answers) (al : UInt8) : Changes m (.int number) (m.registers.setByte .al al)
  | unanswered {number : UInt8} {s : Service} (selects : m.service? number = some s)
      (silent : ¬ s.answers) : Changes m (.int number) m.registers
  | call (displacement : Int8) (room : (m.registers.word .sp).toNat < 0xFFFE) :
      Changes m (.call displacement) (m.registers.setWord .sp (m.registers.word .sp + 2))
  | jmp (displacement : Int8) : Changes m (.jmp displacement) m.registers

namespace Changes

variable {m : Machine κ} {i : Instruction} {rs : Registers}

theorem ah (h : Changes m i rs) (other : ∀ value, i ≠ .movAh value) :
    rs.byte .ah = m.registers.byte .ah := by
  cases h with
  | nop | unanswered | jmp => rfl
  | movAh value => exact absurd rfl (other value)
  | answered => exact m.registers.byte_setByte .al .ah _
  | movDx | ret | call => exact m.registers.byte_setWord_of_ne (by decide) _

theorem dx (h : Changes m i rs) (other : ∀ value, i ≠ .movDx value) :
    rs.word .dx = m.registers.word .dx := by
  cases h with
  | nop | unanswered | jmp => rfl
  | movAh | answered => exact m.registers.word_setByte_of_ne (by decide) _
  | movDx value => exact absurd rfl (other value)
  | ret | call => exact m.registers.word_setWord_of_ne (by decide) _

theorem sp (h : Changes m i rs) :
    (rs.word .sp).toNat + i.popped = (m.registers.word .sp).toNat + i.pushed := by
  cases h with
  | nop | unanswered | jmp => rfl
  | movAh | answered =>
    rw [m.registers.word_setByte_of_ne (by decide)]
    rfl
  | movDx =>
    rw [m.registers.word_setWord_of_ne (by decide)]
    rfl
  | ret full =>
    rw [Registers.word_setWord_self, toNat_shrunk full]
    exact Nat.sub_add_cancel full
  | call displacement room =>
    rw [Registers.word_setWord_self, toNat_grown room]
    rfl

end Changes

theorem two_le_of_top {m : Machine κ} {value : Word} (top : m.top = .ok value) :
    2 ≤ (m.registers.word .sp).toNat := by
  apply Nat.le_of_not_lt
  intro low
  have few : m.registers.word .sp = 0 ∨ m.registers.word .sp = 1 := by
    simp only [← UInt16.toNat_inj, UInt16.reduceToNat]
    omega
  rcases few with empty | one
  · rw [top_eq_error_iff.mpr (.inl ⟨empty, rfl⟩)] at top
    cases top
  · rw [top_eq_error_iff.mpr (.inr ⟨one, rfl⟩)] at top
    cases top

variable [Console κ]

theorem Serves.registers {m m' : Machine κ} {s : Service} (h : Serves m s (.ok ()) m') :
    (s.answers ∧ ∃ al, m'.registers = m.registers.setByte .al al) ∨
      ¬ s.answers ∧ m'.registers = m.registers := by
  cases h with
  | terminate | exit => exact .inr ⟨nofun, rfl⟩
  | received => exact .inl ⟨rfl, _, rfl⟩
  | wrote writes =>
    cases s with
    | writeCharEcho | directConsole => exact .inl ⟨rfl, _, rfl⟩
    | writeChar | printString => exact .inr ⟨nofun, rfl⟩
    | terminate | readChar | exit => cases writes

theorem Step.changes {m m' : Machine κ} (step : Step m (.ok ()) m') :
    ∃ i rs, m.instruction = .ok i ∧ Changes m i rs ∧
      m'.registers = rs.setWord .ip m'.ip.toUInt16 := by
  cases step with
  | nop next => exact ⟨_, _, next, .nop, rfl⟩
  | movAh next => exact ⟨_, _, next, .movAh _, rfl⟩
  | movDx next => exact ⟨_, _, next, .movDx _, rfl⟩
  | ret next top => exact ⟨_, _, next, .ret (two_le_of_top top), rfl⟩
  | int next selects serves =>
    rcases serves.registers with ⟨answers, al, eq⟩ | ⟨silent, eq⟩
    · refine ⟨_, _, next, .answered selects answers al, ?_⟩
      rw [← eq]
      rfl
    · refine ⟨_, _, next, .unanswered selects silent, ?_⟩
      rw [← eq]
      rfl
  | call next push =>
    obtain ⟨sp, memory, room, -, rfl⟩ := push_ok_iff.mp push
    obtain ⟨lt, rfl⟩ := pushed?_eq_some_iff.mp room
    exact ⟨_, _, next, .call _ lt, rfl⟩
  | jmp next => exact ⟨_, _, next, .jmp _, rfl⟩

/-- A step writes to memory in a call only, which pushes where to return to. -/
theorem Step.memory {m m' : Machine κ} {r : Except Fault Unit} (step : Step m r m') :
    m'.memory = m.memory ∨
      ∃ displacement value, m.instruction = .ok (.call displacement) ∧
        (m.registers.word .sp).toNat < 0xFFFE ∧
        m'.registers.word .sp = m.registers.word .sp + 2 ∧
        m.memory.write16 (slot (m.registers.word .sp + 2)) value = .ok m'.memory := by
  cases step with
  | unreadable | nop | movAh | movDx | ret | retFails | noService | jmp | jmpBelow => exact .inl rfl
  | int next selects serves | intFails next selects serves => exact .inl serves.frame.1
  | callFails next push =>
    obtain ⟨-, -, rfl⟩ := push_error_iff.mp push
    exact .inl rfl
  | call next push =>
    obtain ⟨sp, memory, room, written, rfl⟩ := push_ok_iff.mp push
    obtain ⟨lt, rfl⟩ := pushed?_eq_some_iff.mp room
    refine .inr ⟨_, _, next, lt, ?_, written⟩
    exact (Registers.word_setWord_of_ne _ (by decide) _).trans (Registers.word_setWord_self _ _ _)
  | callBelow next push =>
    obtain ⟨sp, memory, room, written, rfl⟩ := push_ok_iff.mp push
    obtain ⟨lt, rfl⟩ := pushed?_eq_some_iff.mp room
    exact .inr ⟨_, _, next, lt, Registers.word_setWord_self _ _ _, written⟩

/-- No instruction leads far out of memory. The furthest is a call in the last bytes that has room
for its operand. -/
theorem Step.ip_le {m m' : Machine κ} (step : Step m (.ok ()) m') : m'.ip.toNat ≤ 0x10080 := by
  have size : memorySize = 0x10000 := rfl
  have far {origin goal : Address} {displacement : Int8} (le : origin.toNat ≤ memorySize + 1)
      (target : Instruction.target origin displacement = .ok goal) : goal.toNat ≤ 0x10080 := by
    have := Instruction.toNat_of_target (by omega) target
    have := displacement.toInt_lt
    omega
  cases step with
  | nop next | movAh next | movDx next | int next =>
    have near := Instruction.toNat_next_le next
    show (Instruction.next _ _).toNat ≤ _
    omega
  | ret next top =>
    show (returnAddress _).toNat ≤ _
    rw [toNat_returnAddress, size]
    omega
  | call next push target | jmp next target => exact far (Instruction.toNat_next_le next) target

/-- A call succeeds if there is room on the stack and its target is not below 0. -/
theorem exists_step_call {m : Machine κ} {displacement : Int8}
    (next : m.instruction = .ok (.call displacement)) (room : (m.registers.word .sp).toNat < 0xFFFE)
    (above : 0 ≤ (m.ip.toNat : Int) + 3 + displacement.toInt) : ∃ m', Step m (.ok ()) m' := by
  have inside := Instruction.inside_of_fetch next
  have room := pushed?_eq_some_iff.mpr ⟨room, rfl⟩
  obtain ⟨memory, written⟩ := write16_slot_ok room m.memory
    (returnOffset ((Instruction.call displacement).next m.ip))
  have push := push_ok_iff.mpr ⟨_, memory, room, written, rfl⟩
  cases target : Instruction.target ((Instruction.call displacement).next m.ip) displacement with
  | ok goal => exact ⟨_, .call next push target⟩
  | error f =>
    obtain ⟨below, -⟩ := (Instruction.target_next_eq_error_iff inside).mp target
    exact absurd above (Int.not_le.mpr below)

end Machine

end Micro86
