import Micro86.Proofs.Interrupts
import Micro86.Proofs.Loading

/-!
# Scans for a terminator

`Found m t n i bytes`: the bytes are all that lie between index `i` and the first `t`, or the first
`n` if there is none among them. Exactly these are found by a scan, `terminated_eq_iff`, and exactly
these are printed, `prints_up_to_terminator`.
-/

namespace Micro86

namespace Memory

/-- The longest run of bytes from index `i` on that has no `t`, among the first `n`. -/
structure Found (m : Memory) (t : UInt8) (n i : Nat) (bytes : List UInt8) : Prop where
  short : bytes.length ≤ n
  there : ∀ j, j < bytes.length → m.cells[i + j]? = bytes[j]?
  free : t ∉ bytes
  ends : bytes.length = n ∨ m.cells[i + bytes.length]? = some t

variable {m : Memory} {t : UInt8} {n i : Nat}

/-- A run that stops before another one has a terminator where the other one goes on. -/
theorem Found.length_le {r s : List UInt8} (hr : m.Found t n i r) (hs : m.Found t n i s) :
    s.length ≤ r.length := by
  apply Nat.le_of_not_lt
  intro lt
  rcases hr.ends with full | ends
  · have short := hs.short
    omega
  · rw [hs.there r.length lt] at ends
    exact hs.free (List.mem_of_getElem? ends)

theorem Found.unique {r s : List UInt8} (hr : m.Found t n i r) (hs : m.Found t n i s) : r = s := by
  have same : r.length = s.length := Nat.le_antisymm (hs.length_le hr) (hr.length_le hs)
  apply List.ext_getElem?
  intro j
  by_cases inside : j < r.length
  · rw [← hr.there j inside, ← hs.there j (same ▸ inside)]
  · have outside : r.length ≤ j := Nat.le_of_not_lt inside
    rw [List.getElem?_eq_none outside, List.getElem?_eq_none (same ▸ outside)]

theorem found_scan (m : Memory) (t : UInt8) (room : n ≤ memorySize - i) :
    m.Found t n i (m.scan t n i) := by
  induction n generalizing i with
  | zero => constructor <;> simp [scan]
  | succ n ih =>
    have inside : i < memorySize := by omega
    have here : m.cells[i]? = some m.cells[i] := Vector.getElem?_eq_getElem inside
    have further (j : Nat) : i + (j + 1) = i + 1 + j := by omega
    rw [scan, dif_pos inside]
    by_cases ends : m.cells[i] = t
    · simp only [ends, ↓reduceIte]
      constructor <;> simp [here, ends]
    · have rest := ih (i := i + 1) (by omega)
      simp only [ends, ↓reduceIte]
      constructor
      · exact Nat.succ_le_succ rest.short
      · intro j lt
        cases j with
        | zero => exact here
        | succ j =>
          rw [further, List.getElem?_cons_succ]
          exact rest.there j (Nat.lt_of_succ_lt_succ lt)
      · rw [List.mem_cons, not_or]
        exact ⟨Ne.symm ends, rest.free⟩
      · rw [List.length_cons, further (m.scan t n (i + 1)).length]
        exact rest.ends.imp_left (congrArg (· + 1))

/-- How many bytes a scan from `start` may take: those up to the end of memory, and no more than
fit in an image. -/
def reach (start : Address) : Nat :=
  if memorySize < start.toNat then 0 else min 65280 (memorySize - start.toNat)

theorem reach_eq (start : Address) : reach start = min maxImageSize (memorySize - start.toNat) := by
  have limit : maxImageSize = 65280 := rfl
  rw [reach, limit]
  by_cases beyond : memorySize < start.toNat
  · rw [if_pos beyond]
    omega
  · rw [if_neg beyond]

theorem found_terminated (m : Memory) (start : Address) (t : UInt8) :
    m.Found t (reach start) start.toNat (m.terminated start t) := by
  rw [terminated, reach_eq]
  exact m.found_scan t (Nat.min_le_right _ _)

theorem terminated_eq_iff {start : Address} {bytes : List UInt8} :
    m.terminated start t = bytes ↔ m.Found t (reach start) start.toNat bytes := by
  constructor
  · rintro rfl
    exact m.found_terminated start t
  · intro found
    exact (m.found_terminated start t).unique found

end Memory

namespace Machine

variable {κ : Type} [Console κ]

theorem Serves.interrupt_eq {m m' : Machine κ} {number : UInt8} {s : Service}
    {r : Except Fault Unit}
    (selects : m.service? number = some s) (serves : Serves m s r m') :
    m.interrupt number = (r, m') := by
  rw [service?] at selects
  simp only [interrupt, selects, serves.serve_eq]

/-- What becomes of a machine that calls for the bytes to be written: the console is called once,
and all else stays. The step moves on if the call succeeds. -/
structure Prints (m : Machine κ) (bytes : List UInt8) : Prop where
  wrote : ∀ console, Console.writeBytes m.console bytes = (.ok (), console) →
    m.interrupt 0x21 = (.ok (), { m with console }) ∧
      (m.instruction = .ok (.int 0x21) → m.step = (.ok (), { m with console }.arrive (m.ip + 2)))
  failed : ∀ text console, Console.writeBytes m.console bytes = (.error text, console) →
    m.interrupt 0x21 = (.error (.console text), { m with console }) ∧
      (m.instruction = .ok (.int 0x21) → m.step = (.error (.console text), { m with console }))

theorem prints_printed {m : Machine κ} (ah : m.registers.byte .ah = 0x09) : m.Prints m.printed := by
  have selects : m.service? 0x21 = some .printString := by
    rw [service?, ah, Service.select?_eq_some_iff]
    exact .inr ⟨rfl, List.mem_singleton_self _⟩
  constructor
  · intro console answer
    have serves : Serves m .printString (.ok ()) { m with console } := .wrote rfl answer
    exact ⟨serves.interrupt_eq selects, fun next => (Step.int next selects serves).step_eq⟩
  · intro text console answer
    have serves : Serves m .printString (.error (.console text)) { m with console } :=
      .unwritten rfl answer
    exact ⟨serves.interrupt_eq selects, fun next => (Step.intFails next selects serves).step_eq⟩

/-- A scan finds the longest run of bytes without the terminator that memory and the limit on its
length admit, and nothing else. With 9 in AH `INT 21h` writes what a scan for `$` from DX finds, and
does nothing else. -/
theorem prints_up_to_terminator :
    (∀ (m : Memory) (start : Address) (t : UInt8) (bytes : List UInt8),
      m.terminated start t = bytes ↔ m.Found t (Memory.reach start) start.toNat bytes) ∧
    ∀ m : Machine κ, m.registers.byte .ah = 0x09 →
      m.Prints (m.memory.terminated (m.registers.word .dx).toUInt64 0x24) :=
  ⟨fun _ _ _ _ => Memory.terminated_eq_iff, fun _ ah => prints_printed ah⟩

/-- A machine that is about to print `Hi`, with some byte behind the terminator. -/
def greeting (last : UInt8) : Machine Buffer :=
  { loaded "hi.com" [0xCD, 0x21, 0x48, 0x69, 0x24, last] (Buffer.ofInput []) with
    registers := (Registers.zero.setByte .ah 0x09).setWord .dx 0x102 }

theorem cells_greeting (last : UInt8) {i : Nat} (lt : i < 6) :
    (greeting last).memory.cells[0x100 + i]? = [0xCD, 0x21, 0x48, 0x69, 0x24, last][i]? := by
  have fits : [0xCD, 0x21, 0x48, 0x69, 0x24, last].length ≤ maxImageSize := by
    show 6 ≤ maxImageSize
    decide
  exact image_loaded "hi.com" (Buffer.ofInput []) fits lt

theorem instruction_greeting (last : UInt8) : (greeting last).instruction = .ok (.int 0x21) :=
  Instruction.fetch_int_iff.mpr
    ⟨cells_greeting last (by decide : 0 < 6), cells_greeting last (by decide : 1 < 6)⟩

theorem printed_greeting (last : UInt8) :
    (greeting last).memory.Found 0x24 (Memory.reach 0x102) 0x102 [0x48, 0x69] := by
  constructor
  · decide
  · intro j lt
    have few : 2 + j < 6 := by
      simp only [List.length_cons, List.length_nil] at lt
      omega
    have cell := cells_greeting last few
    rw [← Nat.add_assoc] at cell
    rw [cell, Nat.add_comm]
    exact List.getElem?_append_left (show j < ([0x48, 0x69] : List UInt8).length from lt)
  · decide
  · exact .inr (cells_greeting last (by decide : 4 < 6))

/-- The string is printed up to its terminator, and the step moves on. -/
theorem prints_up_to_terminator_hi :
    (greeting 7).interrupt 0x21 =
      (.ok (), { greeting 7 with console := Buffer.mk [] #[0x48, 0x69] }) ∧
      (greeting 7).step = (.ok (),
        { greeting 7 with console := Buffer.mk [] #[0x48, 0x69] }.arrive 0x102) := by
  obtain ⟨scans, prints⟩ := prints_up_to_terminator (κ := Buffer)
  have wrote := (prints (greeting 7) (by decide)).wrote
  rw [show ((greeting 7).registers.word .dx).toUInt64 = 0x102 by decide,
    (scans _ 0x102 0x24 _).mpr (printed_greeting 7)] at wrote
  obtain ⟨done, moves⟩ := wrote _ rfl
  exact ⟨done, moves (instruction_greeting 7)⟩

end Machine

end Micro86
