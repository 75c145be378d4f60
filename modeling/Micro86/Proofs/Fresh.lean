import Micro86.Proofs.Loading
import Micro86.Proofs.Registers

/-!
# The machine that a program finds

`Fresh` says of every part of a machine what it is before the first instruction. Loading gives the
one machine of which all this is true, and it fails for the length of the image alone:
`load_builds_fresh`.
-/

namespace Micro86

theorem Registers.word_zero (r : Reg16) : zero.word r = 0 := by
  cases r <;> decide

namespace Machine

variable {κ : Type}

/-- A machine that has executed nothing. The image lies at address 0x100, where it will start, with
zeros around it. -/
structure Fresh (name : String) (image : List UInt8) (console : κ) (s : Machine κ) : Prop where
  placed : ∀ i (h : i < image.length), s.memory.cells[0x100 + i]? = some image[i]
  below : ∀ i < 0x100, s.memory.cells[i]? = some 0
  above : ∀ i < memorySize, 0x100 + image.length ≤ i → s.memory.cells[i]? = some 0
  ip : s.ip = 0x100
  shown : s.registers.word .ip = 0x100
  others : ∀ r, r ≠ .ip → s.registers.word r = 0
  steps : s.steps = 0
  status : s.status = .running
  program : s.program = name
  console : s.console = console

variable {name : String} {image : List UInt8} {console : κ}

theorem fresh_loaded (name : String) {image : List UInt8} (console : κ)
    (fits : image.length ≤ maxImageSize) :
    Fresh name image console (loaded name image console) where
  placed i lt := by
    have there := image_loaded name console fits lt
    rw [List.getElem?_eq_getElem lt] at there
    exact there
  below i low := by
    have before : ¬ 0x100 ≤ i := Nat.not_le_of_lt low
    rw [cells_loaded _ _ _ (Nat.lt_trans low (by decide))]
    exact congrArg some (if_neg before)
  above i inside high := by
    have behind : image.length ≤ i - 0x100 := by omega
    have none : image[i - 0x100]? = none := List.getElem?_eq_none behind
    rw [cells_loaded _ _ _ inside]
    show some (if 0x100 ≤ i then image[i - 0x100]?.getD 0 else 0) = some 0
    simp [none]
  ip := rfl
  shown := Registers.word_setWord_self _ _ _
  others r other := by
    rw [registers_loaded, Registers.word_setWord_of_ne _ other.symm, Registers.word_zero]
  steps := rfl
  status := rfl
  program := rfl
  console := rfl

/-- A fresh machine has all of its image in memory. -/
theorem Fresh.fits {s : Machine κ} (fresh : Fresh name image console s) : image.length ≤ 65280 := by
  apply Nat.le_of_not_lt
  intro long
  have last := fresh.placed 65280 long
  obtain ⟨inside, -⟩ := Vector.getElem?_eq_some_iff.mp last
  exact absurd inside (by decide)

theorem Fresh.cells_eq {s t : Machine κ} (fresh : Fresh name image console s)
    (also : Fresh name image console t) {i : Nat} (inside : i < memorySize) :
    s.memory.cells[i]? = t.memory.cells[i]? := by
  by_cases low : i < 0x100
  · rw [fresh.below i low, also.below i low]
  · by_cases high : 0x100 + image.length ≤ i
    · rw [fresh.above i inside high, also.above i inside high]
    · obtain ⟨j, rfl⟩ := Nat.exists_eq_add_of_le (Nat.le_of_not_lt low)
      have within : j < image.length := by omega
      rw [fresh.placed j within, also.placed j within]

/-- Nothing is left open by what `Fresh` says. -/
theorem Fresh.unique {s t : Machine κ} (fresh : Fresh name image console s)
    (also : Fresh name image console t) : s = t := by
  have memory : s.memory = t.memory := by
    apply Memory.ext
    apply Vector.ext
    intro i inside
    apply Option.some.inj
    rw [← Vector.getElem?_eq_getElem inside, ← Vector.getElem?_eq_getElem inside]
    exact fresh.cells_eq also inside
  have registers : s.registers = t.registers := by
    apply Registers.ext_word
    intro r
    by_cases ip : r = .ip
    · rw [ip, fresh.shown, also.shown]
    · rw [fresh.others r ip, also.others r ip]
  calc
    s = ⟨s.registers, s.memory, s.console, s.ip, s.status, s.steps, s.program⟩ := rfl
    _ = ⟨t.registers, t.memory, console, 0x100, .running, 0, name⟩ := by
      rw [registers, memory, fresh.console, fresh.ip, fresh.status, fresh.steps, fresh.program]
    _ = ⟨t.registers, t.memory, t.console, t.ip, t.status, t.steps, t.program⟩ := by
      rw [also.console, also.ip, also.status, also.steps, also.program]

/-- Zeros behind an image are there anyway. -/
theorem Fresh.of_append_zeros {s : Machine κ} {n : Nat}
    (fresh : Fresh name (image ++ List.replicate n 0) console s) : Fresh name image console s where
  placed i lt := by
    have longer : i < (image ++ List.replicate n 0).length := by
      rw [List.length_append]
      omega
    rw [fresh.placed i longer, List.getElem_append_left lt]
  below := fresh.below
  above i inside high := by
    by_cases within : i < 0x100 + (image.length + n)
    · obtain ⟨j, rfl⟩ := Nat.exists_eq_add_of_le high
      have there : image.length + j < (image ++ List.replicate n 0).length := by
        simp only [List.length_append, List.length_replicate]
        omega
      rw [Nat.add_assoc, fresh.placed _ there]
      simp
    · apply fresh.above i inside
      simp only [List.length_append, List.length_replicate]
      omega
  ip := fresh.ip
  shown := fresh.shown
  others := fresh.others
  steps := fresh.steps
  status := fresh.status
  program := fresh.program
  console := fresh.console

theorem load_eq_ok_iff {s : Machine κ} :
    load name image console = .ok s ↔ Fresh name image console s := by
  constructor
  · intro load
    have fits : image.length ≤ maxImageSize := by
      apply Nat.le_of_not_lt
      intro long
      rw [Machine.load, if_pos long] at load
      cases load
    rw [eq_loaded load]
    exact fresh_loaded name console fits
  · intro fresh
    rw [load_eq name console fresh.fits, (fresh_loaded name console fresh.fits).unique fresh]

/-- Loading succeeds for all images of at most 65280 bytes and no others, of which it tells the
size. The block is never refused once the size was accepted. It gives a machine that is `Fresh` and
nothing else is, so zeros at the end of an image make no difference. -/
theorem load_builds_fresh (name : String) (image : List UInt8) (console : κ) :
    ((∃ s, load name image console = .ok s) ↔ image.length ≤ 65280) ∧
      (65280 < image.length → load name image console = .error (.tooLarge image.length 65280)) ∧
      (image.length ≤ 65280 → ∃ memory, Memory.empty.load programStart image = .ok memory) ∧
      (∀ s, load name image console = .ok s ↔ Fresh name image console s) ∧
      ∀ n, image.length + n ≤ 65280 →
        load name (image ++ List.replicate n 0) console = load name image console := by
  refine ⟨?_, ?_, ?_, ?_, ?_⟩
  · constructor
    · rintro ⟨s, load⟩
      exact (load_eq_ok_iff.mp load).fits
    · intro fits
      exact ⟨_, load_eq name console fits⟩
  · intro long
    exact if_pos long
  · intro fits
    have short : image.length < UInt64.size := Nat.lt_of_le_of_lt fits (by decide)
    have room : programStart.toNat + image.length ≤ memorySize := Nat.add_le_add_left fits 0x100
    exact ⟨_, (Memory.load_eq _ _ short).trans (if_pos room)⟩
  · intro s
    exact load_eq_ok_iff
  · intro n room
    have longer : (image ++ List.replicate n 0).length ≤ maxImageSize := by
      rw [List.length_append, List.length_replicate]
      exact room
    have fresh := fresh_loaded name console longer
    rw [load_eq name console longer]
    exact (load_eq_ok_iff.mpr fresh.of_append_zeros).symm

/-- Two bytes with and without zeros behind them, and an image that is one byte too long. -/
theorem load_builds_fresh_two_bytes :
    ∃ s, load "a.com" [0xCD, 0x20] (Buffer.ofInput [7]) = .ok s ∧
      load "a.com" [0xCD, 0x20, 0, 0, 0] (Buffer.ofInput [7]) = .ok s ∧
      s.memory.cells[0x101]? = some 0x20 ∧ s.memory.cells[0xFFFF]? = some 0 ∧
      s.registers.word .sp = 0 ∧ s.console.unread = [7] ∧
      load "a.com" (List.replicate 65281 0x90) (Buffer.ofInput [7]) =
        .error (.tooLarge 65281 65280) := by
  obtain ⟨succeeds, -, -, builds, zeros⟩ :=
    load_builds_fresh "a.com" [0xCD, 0x20] (Buffer.ofInput [7])
  obtain ⟨-, refuses, -⟩ :=
    load_builds_fresh "a.com" (List.replicate 65281 0x90) (Buffer.ofInput [7])
  rw [List.length_replicate] at refuses
  obtain ⟨s, load⟩ := succeeds.mpr (by decide)
  have fresh := (builds s).mp load
  refine ⟨s, load, (zeros 3 (by decide)).trans load, fresh.placed 1 (by decide),
    fresh.above 0xFFFF (by decide) (by decide), fresh.others .sp (by decide), ?_,
      refuses (by decide)⟩
  rw [fresh.console]
  rfl

end Machine

end Micro86
