import Micro86.Proofs.Memory
import Micro86.Proofs.Stack
import Micro86.Proofs.Step

/-!
# Which address is reported

Memory that refuses names an address outside, `Memory.Honest`, whichever byte of the access it is. A
machine passes on what memory says, and there is one more report: a jump to below address 0, which
is no address at all, names the end of the jump, `Machine.Reports`.
-/

namespace Micro86

/-- The address that is reported is not one of memory. -/
def MemoryError.Outside : MemoryError → Prop
  | .outOfBounds a => memorySize ≤ a.toNat

namespace Memory

variable {m : Memory} {a : Address} {e : MemoryError}

theorem outside_of_read8 (failed : m.read8 a = .error e) : e.Outside := by
  obtain ⟨outside, rfl⟩ := read8_eq_error_iff.mp failed
  exact outside

theorem outside_of_read16 (failed : m.read16 a = .error e) : e.Outside := by
  unfold read16 at failed
  cases low : m.read8 a with
  | error d =>
    rw [low] at failed
    cases failed
    exact outside_of_read8 low
  | ok =>
    rw [low] at failed
    cases high : m.read8 (a + 1) with
    | error d =>
      simp only [high, bind, Except.bind] at failed
      cases failed
      exact outside_of_read8 high
    | ok => simp [high, bind, Except.bind, pure, Except.pure] at failed

theorem outside_of_write8 {value : UInt8} (failed : m.write8 a value = .error e) : e.Outside := by
  rw [write8_eq] at failed
  split at failed
  · cases failed
  · next outside =>
    cases failed
    exact Nat.le_of_not_lt outside

theorem outside_of_write16 {value : Word} (failed : m.write16 a value = .error e) : e.Outside := by
  rw [write16_eq] at failed
  by_cases fits : a.toNat + 1 < memorySize
  · rw [if_pos fits] at failed
    cases failed
  · rw [if_neg fits] at failed
    cases failed
    by_cases next : (a + 1).toNat < memorySize
    · -- The second byte is at address 0 then, so the first one is at the last address.
      rw [if_pos next]
      apply Nat.le_of_not_lt
      intro inside
      rw [toNat_succ inside] at next
      exact fits next
    · rw [if_neg next]
      exact Nat.le_of_not_lt next

/-- The end of a block that does not wrap lies outside if the block does not fit. -/
theorem outside_of_load {bytes : List UInt8} (flat : a.toNat + bytes.length < UInt64.size)
    (failed : m.load a bytes = .error e) : e.Outside := by
  have finish : (a + bytes.length.toUInt64).toNat = a.toNat + bytes.length := by
    simp only [UInt64.size] at flat
    simp only [UInt64.toNat_add, Nat.toUInt64_eq, UInt64.toNat_ofNat', Nat.add_mod_mod]
    exact Nat.mod_eq_of_lt flat
  rw [load_eq m a (by omega)] at failed
  split at failed
  · cases failed
  · next cut =>
    cases failed
    show memorySize ≤ (a + bytes.length.toUInt64).toNat
    omega

/-- Memory names an address outside when it refuses. -/
structure Honest (m : Memory) : Prop where
  read8 : ∀ a e, m.read8 a = .error e → e.Outside
  read16 : ∀ a e, m.read16 a = .error e → e.Outside
  write8 : ∀ a value e, m.write8 a value = .error e → e.Outside
  write16 : ∀ a value e, m.write16 a value = .error e → e.Outside
  load : ∀ a bytes e, a.toNat + bytes.length < UInt64.size → m.load a bytes = .error e → e.Outside

theorem honest (m : Memory) : m.Honest where
  read8 _ _ := outside_of_read8
  read16 _ _ := outside_of_read16
  write8 _ _ _ := outside_of_write8
  write16 _ _ _ := outside_of_write16
  load _ _ _ := outside_of_load

end Memory

namespace Instruction

variable {m : Memory} {ip : Address} {e : MemoryError}

theorem outside_of_read {operand : Address} {o : Opcode} (failed : read m operand o = .error e) :
    e.Outside := by
  cases o with
  | nop | ret => cases failed
  | movAh | int | call | jmp => exact Memory.outside_of_read8 (map_eq_error_iff.mp failed)
  | movDx => exact Memory.outside_of_read16 (map_eq_error_iff.mp failed)

theorem outside_of_fetch : fetch m ip = .error (.memory e) → e.Outside := by
  fun_cases fetch m ip with
  | case1 d unreadable =>
    intro failed
    cases failed
    exact Memory.outside_of_read8 unreadable
  | case2 b readable unknown =>
    intro failed
    cases failed
  | case3 b readable o known =>
    intro failed
    obtain ⟨d, operands, same⟩ := mapError_eq_error_iff.mp failed
    cases same
    exact outside_of_read operands

end Instruction

namespace Machine

variable {κ : Type} {m m' : Machine κ} {e : MemoryError} {origin : Address}

theorem outside_of_top (failed : m.top = .error (.memory e)) : e.Outside := by
  rcases top_eq_error_iff.mp failed with ⟨-, other⟩ | ⟨-, same⟩
  · cases other
  · cases same
    exact Nat.le_refl memorySize

/-- The next instruction ends at `origin` and jumps from there to below address 0. -/
inductive JumpsBelow (m : Machine κ) : Address → Prop where
  | jmp {displacement : Int8} (next : m.instruction = .ok (.jmp displacement))
      (below : (m.ip.toNat : Int) + 2 + displacement.toInt < 0) : JumpsBelow m (m.ip + 2)
  | call {displacement : Int8} (next : m.instruction = .ok (.call displacement))
      (below : (m.ip.toNat : Int) + 3 + displacement.toInt < 0) : JumpsBelow m (m.ip + 3)

/-- A jump does not lead far, so it ends low in memory. -/
theorem JumpsBelow.low (jumps : m.JumpsBelow origin) : origin.toNat < 128 := by
  cases jumps with
  | @jmp displacement next below =>
    have short := displacement.le_toInt
    have ends : (m.ip + 2).toNat = m.ip.toNat + 2 :=
      Instruction.toNat_next (i := .jmp displacement) (Instruction.inside_of_fetch next)
    omega
  | @call displacement next below =>
    have short := displacement.le_toInt
    have ends : (m.ip + 3).toNat = m.ip.toNat + 3 :=
      Instruction.toNat_next (i := .call displacement) (Instruction.inside_of_fetch next)
    omega

variable [Console κ]

/-- What a jump to below address 0 reports, if it is not the stack that fails. -/
theorem JumpsBelow.reported (jumps : m.JumpsBelow origin) (step : Step m (.error (.memory e)) m') :
    e = .outOfBounds origin := by
  cases jumps with
  | @jmp displacement next below =>
    have target : Instruction.target ((Instruction.jmp displacement).next m.ip) displacement =
        .error (.memory (.outOfBounds (m.ip + 2))) :=
      (Instruction.target_next_eq_error_iff (Instruction.inside_of_fetch next)).mpr ⟨below, rfl⟩
    cases step.step_eq.symm.trans (Step.jmpBelow next target).step_eq
    rfl
  | @call displacement next below =>
    obtain ⟨r, pushed, push⟩ :
        ∃ r pushed, m.push (returnOffset ((Instruction.call displacement).next m.ip)) =
          (r, pushed) :=
      ⟨_, _, rfl⟩
    cases r with
    | error f =>
      obtain ⟨-, rfl, -⟩ := push_error_iff.mp push
      cases step.step_eq.symm.trans (Step.callFails next push).step_eq
    | ok =>
      have target : Instruction.target ((Instruction.call displacement).next m.ip) displacement =
          .error (.memory (.outOfBounds (m.ip + 3))) :=
        (Instruction.target_next_eq_error_iff (Instruction.inside_of_fetch next)).mpr ⟨below, rfl⟩
      cases step.step_eq.symm.trans (Step.callBelow next push target).step_eq
      rfl

/-- Any other report is one of memory. -/
theorem Step.outside (step : Step m (.error (.memory e)) m')
    (jumps : ∀ origin, ¬ m.JumpsBelow origin) :
    e.Outside := by
  generalize failed : (Except.error (.memory e) : Except Fault Unit) = r at step
  cases step with
  | nop | movAh | movDx | ret | int | call | jmp | noService => cases failed
  | unreadable next =>
    cases failed
    exact Instruction.outside_of_fetch next
  | retFails next top =>
    cases failed
    exact outside_of_top top
  | intFails next selects serves =>
    -- A service fails with what the console said.
    cases failed
    cases serves
  | callFails next push =>
    cases failed
    cases (push_error_iff.mp push).2.1
  | callBelow next push target =>
    have inside := Instruction.inside_of_fetch next
    obtain ⟨below, -⟩ := (Instruction.target_next_eq_error_iff inside).mp target
    exact absurd (.call next below) (jumps _)
  | jmpBelow next target =>
    have inside := Instruction.inside_of_fetch next
    obtain ⟨below, -⟩ := (Instruction.target_next_eq_error_iff inside).mp target
    exact absurd (.jmp next below) (jumps _)

/-- The address in a memory error that a step of `m` gives. -/
structure Reports (m : Machine κ) (e : MemoryError) : Prop where
  outside : (∀ origin, ¬ m.JumpsBelow origin) → e.Outside
  below : ∀ origin, m.JumpsBelow origin → e = .outOfBounds origin ∧ origin.toNat < 128

theorem Step.reports (step : Step m (.error (.memory e)) m') : m.Reports e where
  outside := step.outside
  below _ jumps := ⟨jumps.reported step, jumps.low⟩

/-- The address that memory reports is outside. That of a step is so too, unless the step jumps to
below address 0: then it is where the jump ends. -/
theorem reports_outside (memory : Memory) (m : Machine κ) :
    memory.Honest ∧ ∀ e, m.step.1 = .error (.memory e) → m.Reports e := by
  refine ⟨memory.honest, fun e failed => ?_⟩
  exact (step_iff.mp (Prod.ext failed rfl : m.step = (_, m.step.2))).reports

/-- A machine at address 0, with a jump to address -126 there. -/
def jumpingBelow : Machine Buffer :=
  { start (Buffer.ofInput []) with
    ip := 0, memory := ⟨Memory.place Memory.empty.cells 0 [0xEB, 0x80]⟩ }

theorem instruction_jumpingBelow : jumpingBelow.instruction = .ok (.jmp (-128)) := by
  refine Instruction.fetch_jmp_iff.mpr ⟨?_, 0x80, ?_, by decide⟩
  · exact (Memory.getElem?_place _ _ _ _).trans (if_pos (by decide))
  · exact (Memory.getElem?_place _ _ _ _).trans (if_pos (by decide))

theorem jumpsBelow_jumpingBelow : jumpingBelow.JumpsBelow 2 :=
  .jmp instruction_jumpingBelow (by decide)

theorem step_jumpingBelow : jumpingBelow.step.1 = .error (.memory (.outOfBounds 2)) := by
  have target : Instruction.target ((Instruction.jmp (-128)).next jumpingBelow.ip) (-128) =
      .error (.memory (.outOfBounds 2)) :=
    Instruction.target_eq_error_iff.mpr (by decide)
  rw [(Step.jmpBelow instruction_jumpingBelow target).step_eq]

/-- Address 2 is in memory. -/
theorem reports_inside_below :
    jumpingBelow.step.1 = .error (.memory (.outOfBounds 2)) ∧
      ¬ (MemoryError.outOfBounds 2).Outside :=
  ⟨step_jumpingBelow, by simp [MemoryError.Outside, memorySize]⟩

/-- A block across the end of memory, and the jump to below address 0. -/
theorem reports_outside_block :
    ∃ e, Memory.empty.load 0xFFFF [1, 2] = .error e ∧ e.Outside ∧
      ∃ origin, jumpingBelow.JumpsBelow origin ∧
        jumpingBelow.step.1 = .error (.memory (.outOfBounds origin)) ∧ origin.toNat < 128 := by
  obtain ⟨honest, reports⟩ := reports_outside Memory.empty jumpingBelow
  have refused : Memory.empty.load 0xFFFF [1, 2] = .error (.outOfBounds 0x10001) :=
    (Memory.load_eq _ _ (by decide)).trans (if_neg (by decide))
  obtain ⟨-, low⟩ := (reports _ step_jumpingBelow).below 2 jumpsBelow_jumpingBelow
  refine ⟨_, refused, honest.load _ _ _ (by decide) refused, 2, ?_⟩
  exact ⟨jumpsBelow_jumpingBelow, step_jumpingBelow, low⟩

end Machine

end Micro86
