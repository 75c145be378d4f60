import Micro86.Proofs.Coupling

/-!
# The end of input

A program that reads on at the end of input reads `0xFF`. `end_of_input_reads_as_padding`: it cannot
tell the end from any number of these bytes behind its input.
-/

namespace Micro86

/-- A buffer with so many more bytes behind its input. -/
def Buffer.padded (b : Buffer) (n : Nat) : Buffer :=
  { b with unread := b.unread ++ List.replicate n 0xFF }

/-- What is read is the same, on either side of the end. -/
theorem Buffer.readByte_padded (b : Buffer) (n : Nat) :
    (b.padded n).readByte.1.getD endOfInput = b.readByte.1.getD endOfInput ∧
      ∃ i, i ≤ n ∧ (b.padded n).readByte.2 = b.readByte.2.padded i := by
  obtain ⟨unread, output⟩ := b
  cases unread with
  | cons c unread => exact ⟨rfl, n, Nat.le_refl n, rfl⟩
  | nil =>
    cases n with
    | zero => exact ⟨rfl, 0, Nat.le_refl 0, rfl⟩
    -- The input is used up, and the byte in its place is one of those behind it.
    | succ n => exact ⟨rfl, n, Nat.le_succ n, rfl⟩

/-- A buffer beside one with at most `n` more bytes behind its input. -/
def Coupling.padding (n : Nat) : Coupling Buffer where
  Chars := Eq
  Consoles b c := ∃ i, i ≤ n ∧ c = b.padded i
  failures _ := 0
  chars_self _ := rfl
  read {b c d byte} h answer := by
    obtain ⟨i, le, rfl⟩ := h
    rw [Buffer.readByte_eq, Prod.mk.injEq, Except.ok.injEq] at answer
    obtain ⟨rfl, rfl⟩ := answer
    obtain ⟨same, j, fewer, rest⟩ := b.readByte_padded i
    exact ⟨same.symm, ⟨j, Nat.le_trans fewer le, rest⟩, Nat.le_refl _⟩
  unread {b c d text} h answer := by
    rw [c.readByte_eq] at answer
    cases answer
  wrote {b c d bytes} h answer := by
    obtain ⟨i, le, rfl⟩ := h
    cases answer
    exact ⟨⟨i, le, rfl⟩, Nat.le_refl _⟩
  unwritten {b c d bytes text} h answer := by
    rw [c.writeBytes_eq] at answer
    cases answer

theorem Coupling.padding_exact (n : Nat) : (padding n).Exact :=
  fun _ _ same => same

namespace Machine

/-- The machine with so many more bytes behind its input, and no other difference. -/
def padded (m : Machine Buffer) (n : Nat) : Machine Buffer :=
  { m with console := m.console.padded n }

theorem eq_padded {n : Nat} {s t : Machine Buffer} (h : (Coupling.padding n).Machines s t) :
    ∃ i, i ≤ n ∧ t = s.padded i := by
  obtain ⟨i, le, console⟩ := h.console
  refine ⟨i, le, ?_⟩
  calc t = { ({ t with console := s.console } : Machine Buffer) with console := t.console } := rfl
    _ = s.padded i := by rw [(Coupling.padding_exact n).machines_eq h, console, padded]

/-- The end of input cannot be told from bytes `0xFF`. With any number of them behind the input a
program runs as without: each run has the same result and each step the same answer, and the
machines differ in nothing but how many of these bytes are still unread. -/
theorem end_of_input_reads_as_padding (name : String) {image : List UInt8} (input : List UInt8)
    (n : Nat)
    (fits : image.length ≤ maxImageSize) :
    ∃ s t, load name image (Buffer.ofInput input) = .ok s ∧
      load name image (Buffer.ofInput (input ++ List.replicate n 0xFF)) = .ok t ∧
      (∀ limit, (t.run limit).1 = (s.run limit).1 ∧
        ∃ i, i ≤ n ∧ (t.run limit).2 = (s.run limit).2.padded i) ∧
      ∀ k, (t.stepping k).1 = (s.stepping k).1 ∧
        ∃ i, i ≤ n ∧ (t.stepping k).2 = (s.stepping k).2.padded i := by
  have start : (Coupling.padding n).Machines (loaded name image (Buffer.ofInput input))
      (loaded name image (Buffer.ofInput (input ++ List.replicate n 0xFF))) :=
    Coupling.machines_loaded name image ⟨n, Nat.le_refl n, rfl⟩
  refine ⟨_, _, load_eq name _ fits, load_eq name _ fits, ?_, ?_⟩
  · intro limit
    obtain ⟨results, machines⟩ := start.run rfl limit
    exact ⟨(Coupling.padding_exact n).results_eq results, eq_padded machines⟩
  · intro k
    obtain ⟨answers, machines⟩ := start.stepping rfl k
    exact ⟨answers, eq_padded machines⟩

/-- A program that reads a character and exits with it, at the end of input and before
two bytes more. -/
theorem end_of_input_reads_as_padding_read_exit :
    ∃ s t, load "a.com" [0xB4, 1, 0xCD, 0x21, 0xB4, 0x4C, 0xCD, 0x21] (Buffer.ofInput []) = .ok s ∧
      load "a.com" [0xB4, 1, 0xCD, 0x21, 0xB4, 0x4C, 0xCD, 0x21] (Buffer.ofInput [0xFF, 0xFF]) =
        .ok t ∧
      (t.run 10).1 = (s.run 10).1 ∧ ∃ i, i ≤ 2 ∧ (t.run 10).2 = (s.run 10).2.padded i := by
  obtain ⟨s, t, left, right, runs, -⟩ := end_of_input_reads_as_padding "a.com" [] 2
    (show [0xB4, 1, 0xCD, 0x21, 0xB4, 0x4C, 0xCD, 0x21].length ≤ maxImageSize by decide)
  exact ⟨s, t, left, right, runs 10⟩

end Machine

end Micro86
