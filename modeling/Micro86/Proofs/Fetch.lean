import Micro86.Instruction
import Micro86.Proofs.Memory

/-!
# Fetching

An instruction is fetched exactly if its opcode is in memory and its operands can be read.
-/

namespace Micro86

theorem mapError_eq_ok_iff {ε ε' α : Type} {x : Except ε α} {f : ε → ε'} {a : α} :
    x.mapError f = .ok a ↔ x = .ok a := by
  cases x with
  | error e =>
    constructor
    · intro h
      cases h
    · intro h
      cases h
  | ok b =>
    constructor
    · intro h
      cases h
      rfl
    · intro h
      cases h
      rfl

theorem map_eq_error_iff {ε α β : Type} {x : Except ε α} {f : α → β} {e : ε} :
    x.map f = .error e ↔ x = .error e := by
  cases x with
  | error d =>
    constructor
    · intro h
      cases h
      rfl
    · intro h
      cases h
      rfl
  | ok a => exact ⟨nofun, nofun⟩

theorem mapError_eq_error_iff {ε ε' α : Type} {x : Except ε α} {f : ε → ε'} {e' : ε'} :
    x.mapError f = .error e' ↔ ∃ e, x = .error e ∧ e' = f e := by
  cases x with
  | error e =>
    constructor
    · intro h
      cases h
      exact ⟨e, rfl, rfl⟩
    · rintro ⟨_, same, rfl⟩
      cases same
      rfl
  | ok a =>
    constructor
    · intro h
      cases h
    · rintro ⟨_, same, -⟩
      cases same

namespace Instruction

variable {m : Memory} {ip : Address}

theorem fetch_eq_ok_iff {i : Instruction} :
    fetch m ip = .ok i ↔ ∃ o : Opcode, m.read8 ip = .ok o.byte ∧ read m (ip + 1) o = .ok i := by
  fun_cases fetch m ip with
  | case1 e unreadable => simp [unreadable]
  | case2 b readable unknown =>
    simp only [readable, reduceCtorEq, Except.ok.injEq, false_iff, not_exists]
    rintro o ⟨same, _⟩
    exact Opcode.byte_ne_of_ofByte? unknown o same.symm
  | case3 b readable o known =>
    obtain rfl := Opcode.ofByte?_eq_some_iff.mp known
    rw [mapError_eq_ok_iff, readable]
    constructor
    · intro operands
      exact ⟨o, rfl, operands⟩
    · rintro ⟨o', same, operands⟩
      simp only [Except.ok.injEq] at same
      rw [same, Opcode.ofByte?_byte] at known
      cases known
      exact operands

/-- Operands are cut off by the end of memory only. -/
theorem read_eq_error_iff (inside : ip.toNat < memorySize) {o : Opcode} {e : MemoryError} :
    read m (ip + 1) o = .error e ↔
      memorySize ≤ ip.toNat + o.operandSize ∧ e = .outOfBounds stackTop := by
  have next := toNat_succ inside
  have byte : m.read8 (ip + 1) = .error e ↔ memorySize ≤ ip.toNat + 1 ∧
      e = .outOfBounds stackTop := by
    rw [Memory.read8_eq_error_iff, next]
    refine and_congr_right fun outside => ?_
    have there : ip + 1 = stackTop := UInt64.toNat_inj.mp (by
      rw [next]
      exact Nat.le_antisymm inside outside)
    rw [there]
  cases o with
  | nop | ret => simp [read, Opcode.operandSize, Nat.not_le_of_lt inside]
  | movAh | int | call | jmp => rw [read, map_eq_error_iff, byte, Opcode.operandSize]
  | movDx =>
    rw [read, map_eq_error_iff, Memory.read16_eq_error_iff (by omega), next, Opcode.operandSize]

theorem opcode_of_read {o : Opcode} {operand : Address} {i : Instruction}
    (h : read m operand o = .ok i) : i.opcode = o := by
  cases o with
  | nop | ret =>
    cases h
    rfl
  | movAh | int | call | jmp =>
    cases byte : m.read8 operand with
    | error => simp [read, byte, Except.map] at h
    | ok =>
      simp only [read, byte, Except.map, Except.ok.injEq] at h
      subst h
      rfl
  | movDx =>
    cases word : m.read16 operand with
    | error => simp [read, word, Except.map] at h
    | ok =>
      simp only [read, word, Except.map, Except.ok.injEq] at h
      subst h
      rfl

theorem fetch_ret_iff : fetch m ip = .ok .ret ↔ m.cells[ip.toNat]? = some Opcode.ret.byte := by
  rw [fetch_eq_ok_iff]
  constructor
  · rintro ⟨o, opcode, operands⟩
    obtain rfl := opcode_of_read operands
    exact Memory.read8_eq_ok_iff_getElem?.mp opcode
  · intro opcode
    exact ⟨.ret, Memory.read8_eq_ok_iff_getElem?.mpr opcode, rfl⟩

/-- An instruction with one byte of operands is made of it. -/
theorem fetch_byte_iff {o : Opcode} {make : UInt8 → Instruction} {i : Instruction}
    (kind : i.opcode = o)
    (reads : ∀ operand, read m operand o = (m.read8 operand).map make) :
    fetch m ip = .ok i ↔ m.cells[ip.toNat]? = some o.byte ∧
      ∃ b, m.cells[ip.toNat + 1]? = some b ∧ i = make b := by
  rw [fetch_eq_ok_iff]
  constructor
  · rintro ⟨o', opcode, operands⟩
    obtain rfl := (opcode_of_read operands).symm.trans kind
    obtain ⟨inside, -⟩ := Memory.read8_eq_ok_iff.mp opcode
    rw [reads] at operands
    cases operand : m.read8 (ip + 1) with
    | error => simp [operand, Except.map] at operands
    | ok b =>
      simp only [operand, Except.map, Except.ok.injEq] at operands
      rw [Memory.read8_eq_ok_iff_getElem?, toNat_succ inside] at operand
      exact ⟨Memory.read8_eq_ok_iff_getElem?.mp opcode, b, operand, operands.symm⟩
  · rintro ⟨opcode, b, operand, rfl⟩
    rw [← Memory.read8_eq_ok_iff_getElem?] at opcode
    obtain ⟨inside, -⟩ := Memory.read8_eq_ok_iff.mp opcode
    rw [← toNat_succ inside, ← Memory.read8_eq_ok_iff_getElem?] at operand
    refine ⟨o, opcode, ?_⟩
    rw [reads, operand]
    rfl

theorem fetch_int_iff {number : UInt8} :
    fetch m ip = .ok (.int number) ↔ m.cells[ip.toNat]? = some Opcode.int.byte ∧
      m.cells[ip.toNat + 1]? = some number := by
  rw [fetch_byte_iff (o := .int) rfl fun _ => rfl]
  simp

theorem fetch_call_iff {displacement : Int8} :
    fetch m ip = .ok (.call displacement) ↔ m.cells[ip.toNat]? = some Opcode.call.byte ∧
      ∃ b, m.cells[ip.toNat + 1]? = some b ∧ displacement = b.toInt8 := by
  rw [fetch_byte_iff (o := .call) rfl fun _ => rfl]
  simp

theorem fetch_jmp_iff {displacement : Int8} :
    fetch m ip = .ok (.jmp displacement) ↔ m.cells[ip.toNat]? = some Opcode.jmp.byte ∧
      ∃ b, m.cells[ip.toNat + 1]? = some b ∧ displacement = b.toInt8 := by
  rw [fetch_byte_iff (o := .jmp) rfl fun _ => rfl]
  simp

/-- An instruction that was fetched lies in memory with all its operands. -/
theorem whole_of_fetch {i : Instruction} (h : fetch m ip = .ok i) :
    ip.toNat + i.opcode.operandSize < memorySize := by
  obtain ⟨o, opcode, operands⟩ := fetch_eq_ok_iff.mp h
  obtain ⟨inside, -⟩ := Memory.read8_eq_ok_iff.mp opcode
  obtain rfl := opcode_of_read operands
  apply Nat.lt_of_not_le
  intro cut
  rw [(read_eq_error_iff inside).mpr ⟨cut, rfl⟩] at operands
  cases operands

theorem inside_of_fetch {i : Instruction} (h : fetch m ip = .ok i) : ip.toNat < memorySize :=
  Nat.lt_of_le_of_lt (Nat.le_add_right _ _) (whole_of_fetch h)

theorem size_le (o : Opcode) : o.size ≤ o.operandSize + 2 ∧ o.size ≤ 3 := by
  cases o <;> decide

theorem toNat_next {i : Instruction} (inside : ip.toNat < memorySize) :
    (i.next ip).toNat = ip.toNat + i.opcode.size := by
  have small := (size_le i.opcode).2
  simp only [memorySize] at inside
  simp only [next, UInt64.toNat_add, Nat.toUInt64_eq, UInt64.toNat_ofNat']
  omega

/-- Of a call that ends with memory the second half of the displacement is missing. -/
theorem toNat_next_le {i : Instruction} (h : fetch m ip = .ok i) :
    (i.next ip).toNat ≤ memorySize + 1 := by
  have whole := whole_of_fetch h
  have room := (size_le i.opcode).1
  rw [toNat_next (by omega)]
  omega

/-- Why nothing can be fetched at an address in memory. -/
theorem fetch_eq_error_iff (inside : ip.toNat < memorySize) {f : Fault} :
    fetch m ip = .error f ↔
      (∃ b, m.cells[ip.toNat]? = some b ∧ (∀ o : Opcode, o.byte ≠ b) ∧
        f = .invalidOpcode b (m.cells[ip.toNat + 1]?.getD 0) (ip.toNat - programStart.toNat)) ∨
      ∃ o : Opcode, m.cells[ip.toNat]? = some o.byte ∧ memorySize ≤ ip.toNat + o.operandSize ∧
        f = .memory (.outOfBounds stackTop) := by
  have following : (m.read8 (ip + 1)).toOption.getD 0 = m.cells[ip.toNat + 1]?.getD 0 := by
    unfold Memory.read8
    rw [toNat_succ inside]
    by_cases last : ip.toNat + 1 < memorySize
    · simp [last, Except.toOption]
    · simp [last, Except.toOption]
  fun_cases fetch m ip with
  | case1 e unreadable =>
    exact absurd inside (Nat.not_lt_of_le (Memory.read8_eq_error_iff.mp unreadable).1)
  | case2 b readable unknown =>
    have there := Memory.read8_eq_ok_iff_getElem?.mp readable
    have other := Opcode.byte_ne_of_ofByte? unknown
    simp only [there, unsupported, following, Except.error.injEq, Option.some.injEq]
    constructor
    · rintro rfl
      exact .inl ⟨b, rfl, other, rfl⟩
    · rintro (⟨_, rfl, -, rfl⟩ | ⟨o, same, -⟩)
      · rfl
      · exact absurd same.symm (other o)
  | case3 b readable o known =>
    obtain rfl := Opcode.ofByte?_eq_some_iff.mp known
    have there := Memory.read8_eq_ok_iff_getElem?.mp readable
    rw [mapError_eq_error_iff]
    simp only [there, Option.some.injEq, read_eq_error_iff inside]
    constructor
    · rintro ⟨e, ⟨cut, rfl⟩, rfl⟩
      exact .inr ⟨o, rfl, cut, rfl⟩
    · rintro (⟨_, rfl, other, -⟩ | ⟨o', same, cut, rfl⟩)
      · exact absurd rfl (other o)
      · rw [same, Opcode.ofByte?_byte] at known
        cases known
        exact ⟨_, ⟨cut, rfl⟩, rfl⟩

theorem target_eq_error_iff {origin : Address} {displacement : Int8} {f : Fault} :
    target origin displacement = .error f ↔
      ((origin.toNat : Int) + displacement.toInt < 0 ∨
        (UInt64.size : Int) ≤ origin.toNat + displacement.toInt) ∧
          f = .memory (.outOfBounds origin) := by
  fun_cases target origin displacement with
  | case1 t inside =>
    have somewhere : ¬ (t < 0 ∨ (UInt64.size : Int) ≤ t) := by omega
    simp only [reduceCtorEq, somewhere, false_and, t]
  | case2 t outside =>
    have nowhere : t < 0 ∨ (UInt64.size : Int) ≤ t := by omega
    simp only [Except.error.injEq, nowhere, true_and, eq_comm, t]

/-- A jump from the end of an instruction. -/
theorem target_next_eq_error_iff {i : Instruction} (inside : ip.toNat < memorySize)
    {displacement : Int8}
    {f : Fault} :
    target (i.next ip) displacement = .error f ↔
      (ip.toNat : Int) + i.opcode.size + displacement.toInt < 0 ∧
        f = .memory (.outOfBounds (i.next ip)) := by
  have short := displacement.toInt_lt
  have small := (size_le i.opcode).2
  simp only [memorySize] at inside
  have near : ¬ (UInt64.size : Int) ≤ ip.toNat + i.opcode.size + displacement.toInt := by
    simp only [UInt64.size]
    omega
  rw [target_eq_error_iff, toNat_next inside, Int.natCast_add]
  simp only [near, or_false]

/-- A jump from near memory leads to where it should. -/
theorem toNat_of_target {origin goal : Address} {displacement : Int8}
    (near : origin.toNat ≤ memorySize + 2) (h : target origin displacement = .ok goal) :
    (goal.toNat : Int) = origin.toNat + displacement.toInt := by
  have short := displacement.toInt_lt
  simp only [memorySize] at near
  by_cases inside : 0 ≤ (origin.toNat : Int) + displacement.toInt ∧
      (origin.toNat : Int) + displacement.toInt < UInt64.size
  · rw [target, if_pos inside] at h
    cases h
    simp only [Nat.toUInt64_eq, UInt64.toNat_ofNat']
    omega
  · rw [target, if_neg inside] at h
    cases h

end Instruction

end Micro86
