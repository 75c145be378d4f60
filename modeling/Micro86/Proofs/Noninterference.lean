import Micro86.Proofs.Coupling

/-!
# What the input cannot change

A character that is read stays in AL, and from there only the exit code is taken. So two runs of a
program on different inputs do the same: `input_stays_in_al`.
-/

namespace Micro86

/-- Buffers that may hold any input, with the same output. -/
def Coupling.anyInput : Coupling Buffer where
  Chars _ _ := True
  Consoles b c := c.output = b.output
  failures _ := 0
  chars_self _ := trivial
  read {b c d byte} h answer := by
    rw [c.readByte_eq, Prod.mk.injEq] at answer
    obtain ⟨-, rfl⟩ := answer
    rw [c.output_readByte, b.output_readByte]
    exact ⟨trivial, h, Nat.le_refl _⟩
  unread {b c d text} h answer := by
    rw [c.readByte_eq] at answer
    cases answer
  wrote {b c d bytes} h answer := by
    rw [c.writeBytes_eq, Prod.mk.injEq] at answer
    obtain ⟨-, rfl⟩ := answer
    exact ⟨congrArg (bytes.foldl Array.push) h, Nat.le_refl _⟩
  unwritten {b c d bytes text} h answer := by
    rw [c.writeBytes_eq] at answer
    cases answer

namespace Machine

/-- Machines that differ in AL, the exit code and the unread input at most. -/
structure AgreeButAl (s t : Machine Buffer) : Prop where
  ip : t.ip = s.ip
  steps : t.steps = s.steps
  memory : t.memory = s.memory
  bank : ∀ i (h : i < bankSize), i ≠ Reg8.al.offset → t.registers.bank[i] = s.registers.bank[i]
  halted : t.status.exitCode?.isSome = s.status.exitCode?.isSome
  output : t.console.output = s.console.output
  program : t.program = s.program

/-- Results that differ in the exit code at most. -/
inductive SameKind : Except Fault Outcome → Except Fault Outcome → Prop where
  | halted (a b : UInt8) : SameKind (.ok (.halted a)) (.ok (.halted b))
  | stepLimit : SameKind (.ok .stepLimit) (.ok .stepLimit)
  | endOfMemory : SameKind (.ok .endOfMemory) (.ok .endOfMemory)
  | fault (f : Fault) : SameKind (.error f) (.error f)

open Coupling

theorem agreeButAl {s t : Machine Buffer} (h : anyInput.Machines s t) : AgreeButAl s t where
  ip := h.ip
  steps := h.steps
  memory := h.memory
  bank i lt other := by
    obtain ⟨al, eq, -⟩ := h.registers
    simp only [eq, Registers.setByte, Vector.getElem_set_ne _ _ other.symm]
  halted := by
    have status := h.status
    generalize s.status = a, t.status = b at status ⊢
    cases status <;> rfl
  output := h.console
  program := h.program

theorem sameKind {q r : Except Fault Outcome} (h : anyInput.Results q r) : SameKind q r := by
  cases h with
  | halted => exact .halted _ _
  | same =>
    cases q with
    | error f => exact .fault f
    | ok o =>
      cases o with
      | halted code => exact .halted code code
      | stepLimit => exact .stepLimit
      | endOfMemory => exact .endOfMemory

/-- On any two inputs a program runs alike. The runs end for the same reason and the machines differ
in AL, the exit code and the unread input only; so do the machines after any number of steps, each
of which answers the same. -/
theorem input_stays_in_al (name : String) {image : List UInt8} (u v : List UInt8)
    (fits : image.length ≤ maxImageSize) :
    ∃ s t, load name image (Buffer.ofInput u) = .ok s ∧ load name image (Buffer.ofInput v) = .ok t ∧
      (∀ limit, SameKind (s.run limit).1 (t.run limit).1 ∧
        AgreeButAl (s.run limit).2 (t.run limit).2) ∧
      ∀ n, (t.stepping n).1 = (s.stepping n).1 ∧
        AgreeButAl (s.stepping n).2 (t.stepping n).2 := by
  have start : anyInput.Machines (loaded name image (Buffer.ofInput u))
      (loaded name image (Buffer.ofInput v)) := machines_loaded name image rfl
  refine ⟨_, _, load_eq name _ fits, load_eq name _ fits, fun limit => ?_, fun n => ?_⟩
  · obtain ⟨results, machines⟩ := start.run rfl limit
    exact ⟨sameKind results, agreeButAl machines⟩
  · obtain ⟨answers, machines⟩ := start.stepping rfl n
    exact ⟨answers, agreeButAl machines⟩

/-- A program that reads a character and exits with it, with an input and without one. -/
theorem input_stays_in_al_read_exit :
    ∃ s t, load "a.com" [0xB4, 1, 0xCD, 0x21, 0xB4, 0x4C, 0xCD, 0x21] (Buffer.ofInput [7]) = .ok s ∧
      load "a.com" [0xB4, 1, 0xCD, 0x21, 0xB4, 0x4C, 0xCD, 0x21] (Buffer.ofInput []) = .ok t ∧
      SameKind (s.run 10).1 (t.run 10).1 ∧ AgreeButAl (s.run 10).2 (t.run 10).2 := by
  obtain ⟨s, t, left, right, runs, -⟩ := input_stays_in_al "a.com"
    [7] [] (show [0xB4, 1, 0xCD, 0x21, 0xB4, 0x4C, 0xCD, 0x21].length ≤ maxImageSize by decide)
  exact ⟨s, t, left, right, runs 10⟩

end Machine

end Micro86
