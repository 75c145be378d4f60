import Micro86.Registers

/-!
# Halves and words of the bank

A byte register is a half of one word register, `Reg8.wide`, and has nothing to do with the others.
So writes to places that do not overlap commute, and a read does not see them.
-/

namespace Micro86

/-- The word of which a byte register is a half. -/
def Reg8.wide : Reg8 → Reg16
  | .al | .ah => .ax
  | .bl | .bh => .bx
  | .cl | .ch => .cx
  | .dl | .dh => .dx

theorem Reg8.offset_wide (b : Reg8) :
    b.offset = b.wide.offset ∨ b.offset = b.wide.offset + 1 := by
  cases b <;> decide

theorem Reg8.offset_injective {a b : Reg8} (h : a.offset = b.offset) : a = b := by
  revert h
  cases a <;> cases b <;> decide

theorem Reg16.offset_even (r : Reg16) : r.offset % 2 = 0 := by
  cases r <;> rfl

theorem Reg16.offset_injective {r s : Reg16} (h : r.offset = s.offset) : r = s := by
  revert h
  cases r <;> cases s <;> decide

theorem Reg16.mem_all (r : Reg16) : r ∈ all := by
  cases r <;> decide

/-- Every byte of the bank lies in a word. -/
theorem Reg16.exists_offset {i : Nat} (inside : i < bankSize) :
    ∃ r : Reg16, i = r.offset ∨ i = r.offset + 1 := by
  have covered : ∀ i < bankSize, ∃ r ∈ Reg16.all, i = r.offset ∨ i = r.offset + 1 := by decide
  obtain ⟨r, -, there⟩ := covered i inside
  exact ⟨r, there⟩

/-- A half lies in no other word. -/
theorem Reg8.offset_ne {b : Reg8} {r : Reg16} (h : b.wide ≠ r) :
    b.offset ≠ r.offset ∧ b.offset ≠ r.offset + 1 := by
  have apart : b.wide.offset ≠ r.offset := fun e => h (Reg16.offset_injective e)
  have := b.offset_wide
  have := b.wide.offset_even
  have := r.offset_even
  omega

namespace Registers

variable (rs : Registers)

theorem setByte_comm {a b : Reg8} (h : a ≠ b) (x y : UInt8) :
    (rs.setByte a x).setByte b y = (rs.setByte b y).setByte a x := by
  have apart : a.offset ≠ b.offset := fun e => h (Reg8.offset_injective e)
  simp only [setByte, Registers.mk.injEq]
  exact Vector.set_comm x y apart

@[simp]
theorem setByte_setByte (b : Reg8) (x y : UInt8) :
    (rs.setByte b x).setByte b y = rs.setByte b y := by
  simp [setByte]

theorem setByte_byte (b : Reg8) : rs.setByte b (rs.byte b) = rs := by
  simp [setByte, byte]

theorem setWord_setByte_comm {b : Reg8} {r : Reg16} (h : b.wide ≠ r) (x : UInt8) (w : Word) :
    (rs.setByte b x).setWord r w = (rs.setWord r w).setByte b x := by
  obtain ⟨low, high⟩ := Reg8.offset_ne h
  simp only [setByte, setWord, Registers.mk.injEq]
  rw [Vector.set_comm x w.low low, Vector.set_comm x w.high high]

theorem word_setByte_of_ne {b : Reg8} {r : Reg16} (h : b.wide ≠ r) (x : UInt8) :
    (rs.setByte b x).word r = rs.word r := by
  obtain ⟨low, high⟩ := Reg8.offset_ne h
  simp [word, setByte, Vector.getElem_set_ne, low, high]

theorem byte_setWord_of_ne {b : Reg8} {r : Reg16} (h : b.wide ≠ r) (w : Word) :
    (rs.setWord r w).byte b = rs.byte b := by
  obtain ⟨low, high⟩ := Reg8.offset_ne h
  simp [byte, setWord, Vector.getElem_set_ne, low.symm, high.symm]

theorem getElem?_offset (r : Reg16) : rs.bank[r.offset]? = some (rs.word r).low := by
  simp [word, r.offset_lt]

theorem getElem?_offset_succ (r : Reg16) : rs.bank[r.offset + 1]? = some (rs.word r).high := by
  simp [word, r.offset_succ_lt]

/-- The bank is nothing but its words. -/
theorem ext_word {a b : Registers} (same : ∀ r, a.word r = b.word r) : a = b := by
  apply Registers.ext
  apply Vector.ext
  intro i inside
  apply Option.some.inj
  rw [← Vector.getElem?_eq_getElem inside, ← Vector.getElem?_eq_getElem inside]
  obtain ⟨r, rfl | rfl⟩ := Reg16.exists_offset inside
  · rw [getElem?_offset, getElem?_offset, same]
  · rw [getElem?_offset_succ, getElem?_offset_succ, same]

end Registers

end Micro86
