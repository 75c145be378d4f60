import Micro86.Proofs.History
import Micro86.Proofs.Interrupts
import Micro86.Proofs.Loading

/-!
# What goes over the console

Characters are read by three values of AH, written by three more, and one prints a string.
`traffic_is_due`: what has been read and written is what the interrupts so far called for, in their
order, and nothing else touches the console.
-/

namespace Micro86.Machine

variable {κ : Type}

/-- The bytes from DX up to the first `$`, the end of memory or 65280 bytes,
whichever comes first. -/
def text (m : Machine κ) : List UInt8 :=
  ((m.memory.cells.toList.drop (m.registers.word .dx).toNat).take 65280).takeWhile (· ≠ 0x24)

/-- What is written next. -/
def utterance (m : Machine κ) : List UInt8 :=
  if m.writesChar then [m.registers.byte .dl]
  else if m.selector? = some 0x09 then m.text
  else []

theorem printed_eq (m : Machine κ) : m.printed = m.text := by
  rw [printed, Memory.terminated_eq, UInt16.toNat_toUInt64]
  rfl

theorem utterance_eq (m : Machine κ) : m.utterance = (m.serving?.bind m.written?).getD [] := by
  cases serving : m.serving? with
  | none =>
    have other {ah : UInt8} {s : Service} (listed : ah ∈ s.selectors) : m.selector? ≠ some ah := by
      intro selector
      cases serving.symm.trans (serving?_eq_some_iff.mpr (.inr ⟨ah, listed, selector⟩))
    simp [utterance, writesChar, other (s := .writeCharEcho) (List.mem_singleton_self 0x02),
      other (s := .writeChar) (List.mem_singleton_self 0x05),
      other (s := .directConsole) (List.mem_singleton_self 0x06),
      other (s := .printString) (List.mem_singleton_self 0x09)]
  | some s =>
    rcases serving?_eq_some_iff.mp serving with ⟨int, rfl⟩ | ⟨ah, listed, selector⟩
    · simp [utterance, writesChar, selector?, int, written?]
    · cases s with
      | readChar =>
        simp only [Service.selectors, List.mem_cons, List.not_mem_nil, or_false] at listed
        rcases listed with rfl | rfl | rfl <;> simp [utterance, writesChar, selector, written?]
      | terminate | writeCharEcho | writeChar | directConsole | printString | exit =>
        obtain rfl := List.mem_singleton.mp listed
        simp [utterance, writesChar, selector, written?, printed_eq]

theorem Serves.quiet [Console κ] {a b : Machine κ} {s : Service} {r : Except Fault Unit}
    (serves : Serves a s r b) (serving : a.serving? = some s) (deaf : ¬ a.receives)
    (mute : ¬ a.speaks) : b.console = a.console := by
  cases serves with
  | terminate | exit => rfl
  | received | unread => exact absurd (receives_iff.mpr serving) deaf
  | wrote writes | unwritten writes => exact absurd (speaks_of_written serving writes) mute

/-- Whatever the console is, an instruction that neither reads nor writes leaves it as it is. -/
theorem Step.quiet [Console κ] {a b : Machine κ} {r : Except Fault Unit} (step : Step a r b)
    (deaf : ¬ a.receives) (mute : ¬ a.speaks) : b.console = a.console := by
  cases step with
  | unreadable | nop | movAh | movDx | ret | retFails | noService | jmp | jmpBelow => rfl
  | int next selects serves | intFails next selects serves =>
    exact serves.quiet (serving?_of_selects next selects) deaf mute
  | callFails next push =>
    obtain ⟨-, -, rfl⟩ := push_error_iff.mp push
    rfl
  | call next push | callBelow next push =>
    obtain ⟨sp, memory, room, written, rfl⟩ := push_ok_iff.mp push
    rfl

/-- What has been read and written in any number of steps. -/
theorem traffic_after {s m : Machine Buffer} {n : Nat} (h : s.after? n = some m) :
    m.console.unread = s.console.unread.drop ((s.history n).countP receives) ∧
      m.console.output.toList = s.console.output.toList ++ (s.history n).flatMap utterance := by
  induction n generalizing m with
  | zero =>
    cases h
    exact ⟨rfl, (List.append_nil _).symm⟩
  | succ n ih =>
    obtain ⟨a, reached, step⟩ := after?_succ_iff.mp h
    obtain ⟨unread, output⟩ := ih reached
    have handled := step.handled
    rw [history_succ reached, List.countP_append, List.flatMap_append]
    constructor
    · rw [handled.unread, unread]
      by_cases receives : a.receives
      · rw [if_pos (receives_iff.mp receives), List.countP_cons_of_pos receives, List.tail_drop]
        rfl
      · rw [if_neg (mt receives_iff.mpr receives), List.countP_cons_of_neg receives]
        rfl
    · rw [handled.output, output, ← utterance_eq, List.append_assoc, List.flatMap_singleton]

/-- What is read next is the character behind those that were read before. -/
theorem received_al {s a b : Machine Buffer} {n : Nat} (reached : s.after? n = some a)
    (step : Step a (.ok ()) b) (receives : a.receives) :
    b.registers.byte .al =
      s.console.unread[(s.history n).countP Machine.receives]?.getD endOfInput := by
  rw [step.handled.al, receives_iff.mp receives]
  simp only [Option.bind_some, answer?, Option.getD_some]
  rw [(traffic_after reached).1, List.head?_drop]

/-- The bytes that go over the console are those that the interrupts call for, and in their order.
After any number of steps the unread input is the input without as many bytes as were read, each
read gave the next byte, or `0xFF` at the end of input, and the output consists of what each
instruction had to write. No instruction but an `INT 21h` with one of the seven selectors touches
the console, whatever console it is. -/
theorem traffic_is_due (name : String) {image : List UInt8} (input : List UInt8)
    (fits : image.length ≤ maxImageSize) :
    ∃ s, load name image (Buffer.ofInput input) = .ok s ∧
      (∀ n m, s.after? n = some m →
        m.console.unread = input.drop ((s.history n).countP receives) ∧
        m.console.output.toList = (s.history n).flatMap utterance ∧
        ∀ k a b, k < n → s.after? k = some a → s.after? (k + 1) = some b →
          (a.receives →
            b.registers.byte .al = input[(s.history k).countP receives]?.getD 0xFF) ∧
          b.console.output.toList = a.console.output.toList ++ a.utterance) ∧
      ∀ (κ : Type) [Console κ] (a b : Machine κ) r, a.step = (r, b) → ¬ a.receives → ¬ a.speaks →
        b.console = a.console := by
  refine ⟨_, load_eq name _ fits, ?_, ?_⟩
  · intro n m reached
    obtain ⟨unread, output⟩ := traffic_after reached
    refine ⟨unread, output, ?_⟩
    intro k a b _ before behind
    obtain ⟨a', before', step⟩ := after?_succ_iff.mp behind
    cases before.symm.trans before'
    refine ⟨received_al before step, ?_⟩
    rw [step.handled.output, utterance_eq]
  · intro κ _ a b r step deaf mute
    exact (step_iff.mp step).quiet deaf mute

/-- A program that calls for two services. -/
theorem exists_callsFor_both (name : String) (console : Buffer) {x y : UInt8} {u v : Service}
    (first : x ∈ u.selectors) (second : y ∈ v.selectors) :
    ∃ s a m, load name [0xB4, x, 0xCD, 0x21, 0xB4, y, 0xCD, 0x21] console = .ok s ∧
      s = loaded name [0xB4, x, 0xCD, 0x21, 0xB4, y, 0xCD, 0x21] console ∧
      CallsFor s x u a ∧ CallsFor a y v m := by
  have fits : [0xB4, x, 0xCD, 0x21, 0xB4, y, 0xCD, 0x21].length ≤ maxImageSize := by
    show 8 ≤ maxImageSize
    decide
  obtain ⟨s, load, eq⟩ :
      ∃ s, load name [0xB4, x, 0xCD, 0x21, 0xB4, y, 0xCD, 0x21] console = .ok s ∧
        s = loaded name [0xB4, x, 0xCD, 0x21, 0xB4, y, 0xCD, 0x21] console :=
    ⟨_, load_eq _ _ fits, rfl⟩
  have code (i : Nat) (lt : i < 8) :
      s.memory.cells[0x100 + i]? = [0xB4, x, 0xCD, 0x21, 0xB4, y, 0xCD, 0x21][i]? := by
    rw [eq]
    exact image_loaded _ _ fits lt
  have ip : s.ip.toNat = 0x100 := by
    rw [eq]
    rfl
  obtain ⟨a, one⟩ := exists_callsFor (m := s) first fun i lt => by
    rw [ip, code i (by omega)]
    exact List.getElem?_append_left (show i < [0xB4, x, 0xCD, 0x21].length from lt)
  have behind : a.ip.toNat = 0x104 := by
    rw [one.ip, eq]
    rfl
  obtain ⟨m, two⟩ := exists_callsFor (m := a) second fun i lt => by
    have cell := code (4 + i) (by omega)
    rw [← Nat.add_assoc] at cell
    rw [one.memory, behind, cell, Nat.add_comm]
    rfl
  exact ⟨s, a, m, load, eq, one, two⟩

/-- A program that reads a character, of which there are two, and then writes what is in DL. -/
theorem traffic_is_due_read_write :
    ∃ s m, load "a.com" [0xB4, 1, 0xCD, 0x21, 0xB4, 2, 0xCD, 0x21] (Buffer.ofInput [7, 8]) = .ok s ∧
      s.after? 4 = some m ∧ m.console.unread = [8] ∧ m.console.output.toList.length = 1 := by
  obtain ⟨s, a, m, start, -, read, write⟩ :=
    exists_callsFor_both "a.com" (Buffer.ofInput [7, 8]) (x := 1) (y := 2) (u := .readChar)
      (v := .writeCharEcho) (by decide) (by decide)
  have one : s.after? 1 = some (s.selecting 1) := after?_succ_iff.mpr ⟨s, rfl, read.load⟩
  have two : s.after? 2 = some a := after?_succ_iff.mpr ⟨_, one, read.step⟩
  have three : s.after? 3 = some (a.selecting 2) := after?_succ_iff.mpr ⟨a, two, write.load⟩
  have four : s.after? 4 = some m := after?_succ_iff.mpr ⟨_, three, write.step⟩
  have history : s.history 4 = [s, s.selecting 1, a, a.selecting 2] := by
    rw [history_succ three, history_succ two, history_succ one]
    rfl
  obtain ⟨s', start', traffic, -⟩ := traffic_is_due "a.com" [7, 8]
    (show [0xB4, 1, 0xCD, 0x21, 0xB4, 2, 0xCD, 0x21].length ≤ maxImageSize by decide)
  cases start.symm.trans start'
  obtain ⟨unread, output, -⟩ := traffic 4 m four
  refine ⟨s, m, start, four, ?_, ?_⟩
  · rw [unread, history]
    simp [receives, read.selects, write.selects, read.silent, write.silent]
  · rw [output, history]
    simp [utterance, writesChar, read.selects, write.selects, read.silent, write.silent]

end Micro86.Machine
