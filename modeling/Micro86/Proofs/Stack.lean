import Micro86.Machine.Step
import Micro86.Proofs.Fetch
import Micro86.Proofs.Memory
import Micro86.Proofs.Registers

/-!
# The stack

When a push succeeds and what it leaves, for every stack pointer; where a saved word returns to.
-/

namespace Micro86.Machine

variable {κ : Type}

theorem toNat_slot (sp : Word) : (slot sp).toNat = memorySize - sp.toNat := by
  have top : stackTop.toNat = memorySize := by decide
  have low : sp.toUInt64 ≤ stackTop := by
    rw [UInt64.le_iff_toNat_le, top, UInt16.toNat_toUInt64]
    exact Nat.le_of_lt sp.toNat_lt
  rw [slot, UInt64.toNat_sub_of_le _ _ low, top, UInt16.toNat_toUInt64]

theorem toNat_grown {sp : Word} (room : sp.toNat < 0xFFFE) : (sp + 2).toNat = sp.toNat + 2 := by
  simp only [UInt16.toNat_add, UInt16.reduceToNat]
  omega

theorem toNat_shrunk {sp : Word} (full : 2 ≤ sp.toNat) : (sp - 2).toNat = sp.toNat - 2 := by
  have le : (2 : Word) ≤ sp := UInt16.le_iff_toNat_le.mpr full
  rw [UInt16.toNat_sub_of_le _ _ le]
  rfl

theorem pushed?_eq_some_iff {m : Machine κ} {sp : Word} :
    m.pushed? = some sp ↔
      (m.registers.word .sp).toNat < 0xFFFE ∧ sp = m.registers.word .sp + 2 := by
  by_cases room : (m.registers.word .sp).toNat < 0xFFFE
  · have : m.pushed? = some (m.registers.word .sp + 2) := if_pos (UInt16.lt_iff_toNat_lt.mpr room)
    simp only [this, Option.some.injEq, room, true_and, eq_comm]
  · have : m.pushed? = none := if_neg (mt UInt16.lt_iff_toNat_lt.mp room)
    simp only [this, reduceCtorEq, room, false_and]

theorem pushed?_eq_none_iff {m : Machine κ} :
    m.pushed? = none ↔ 0xFFFE ≤ (m.registers.word .sp).toNat := by
  constructor
  · intro full
    apply Nat.le_of_not_lt
    intro room
    rw [pushed?_eq_some_iff.mpr ⟨room, rfl⟩] at full
    cases full
  · intro full
    exact if_neg fun room => Nat.not_lt_of_le full (UInt16.lt_iff_toNat_lt.mp room)

/-- The slot of a push lies in memory, whatever SP was. -/
theorem write16_slot_ok {m : Machine κ} {sp : Word} (room : m.pushed? = some sp)
    (memory : Memory) (value : Word) : ∃ memory', memory.write16 (slot sp) value = .ok memory' := by
  obtain ⟨lt, rfl⟩ := pushed?_eq_some_iff.mp room
  apply Memory.write16_ok
  rw [toNat_slot, toNat_grown lt, memorySize]
  omega

theorem push_ok_iff {m pushed : Machine κ} {value : Word} :
    m.push value = (.ok (), pushed) ↔ ∃ sp memory, m.pushed? = some sp ∧
      m.memory.write16 (slot sp) value = .ok memory ∧
      pushed = { m with memory, registers := m.registers.setWord .sp sp } := by
  fun_cases push m value with
  | case1 full => simp [full]
  | case2 sp room e failed => simp [room, failed]
  | case3 sp room memory written => simp [room, written, eq_comm]

theorem push_error_iff {m pushed : Machine κ} {value : Word} {f : Fault} :
    m.push value = (.error f, pushed) ↔ m.pushed? = none ∧ f = .stackOverflow ∧ pushed = m := by
  fun_cases push m value with
  | case1 full => simp [full, eq_comm]
  | case2 sp room e failed =>
    obtain ⟨memory, written⟩ := write16_slot_ok room m.memory value
    rw [written] at failed
    cases failed
  | case3 sp room memory written => simp [room]

theorem top_eq_ok_iff {m : Machine κ} {value : Word} :
    m.top = .ok value ↔
      m.registers.word .sp ≠ 0 ∧ m.memory.read16 (slot (m.registers.word .sp)) = .ok value := by
  fun_cases top m with
  | case1 sp empty => exact ⟨nofun, fun h => absurd empty h.1⟩
  | case2 sp full => simp only [ne_eq, full, not_false_eq_true, true_and, mapError_eq_ok_iff, sp]

/-- The word on top can be read unless SP is 0 or 1. -/
theorem top_eq_error_iff {m : Machine κ} {f : Fault} :
    m.top = .error f ↔
      m.registers.word .sp = 0 ∧ f = .stackUnderflow ∨
        m.registers.word .sp = 1 ∧ f = .memory (.outOfBounds stackTop) := by
  have place := toNat_slot (m.registers.word .sp)
  by_cases empty : m.registers.word .sp = 0
  · have top : m.top = .error .stackUnderflow := if_pos empty
    simp [top, empty, eq_comm]
  · have top : m.top = (m.memory.read16 (slot (m.registers.word .sp))).mapError .memory :=
      if_neg empty
    have cut : memorySize ≤ (slot (m.registers.word .sp)).toNat + 1 ↔ m.registers.word .sp = 1 := by
      have := mt UInt16.toNat_inj.mp empty
      rw [place, ← UInt16.toNat_inj]
      simp only [memorySize, UInt16.reduceToNat] at *
      omega
    rw [top, mapError_eq_error_iff]
    simp only [Memory.read16_eq_error_iff (a := slot _) (place ▸ Nat.sub_le _ _), cut, empty,
      false_and, false_or]
    constructor
    · rintro ⟨e, ⟨one, rfl⟩, rfl⟩
      exact ⟨one, rfl⟩
    · rintro ⟨one, rfl⟩
      exact ⟨_, ⟨one, rfl⟩, rfl⟩

theorem toNat_returnOffset (displacement : Int8) (ip : Address) :
    (programStart.toNat + (returnOffset ((Instruction.call displacement).next ip)).toNat) %
        memorySize =
      (ip.toNat + 3) % memorySize := by
  have := ip.toNat_lt
  simp only [returnOffset, Instruction.next, Instruction.opcode, Opcode.size, programStart,
    memorySize, Nat.toUInt64_eq, UInt64.toNat_toUInt16, UInt64.toNat_sub, UInt64.toNat_add,
    UInt64.toNat_ofNat', UInt64.reduceToNat]
  omega

theorem toNat_returnAddress (offset : Word) :
    (returnAddress offset).toNat = (programStart.toNat + offset.toNat) % memorySize := by
  have := offset.toNat_lt
  simp only [returnAddress, programStart, memorySize, Nat.toUInt64_eq, UInt64.toNat_mod,
    UInt64.toNat_add, UInt64.toNat_ofNat', UInt16.toNat_toUInt64, UInt64.reduceToNat, Nat.reducePow,
    Nat.reduceMod]
  omega

end Micro86.Machine
