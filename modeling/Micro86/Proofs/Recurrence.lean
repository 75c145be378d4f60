import Micro86.Proofs.Interrupts
import Micro86.Proofs.Iteration

/-!
# A machine that comes to the same point again

Where a program goes on is decided by `ip`, memory, SP and AH: machines that are `Alike` in these
take the same step, `Alike.step`. So one that has come to the same point again goes round for ever,
`goes_round`, and every run of it ends at its limit, `repetition_has_no_end`.
-/

namespace Micro86.Machine

/-- Machines that agree on all that decides where a program goes on. -/
structure Alike (a b : Machine Buffer) : Prop where
  ip : b.ip = a.ip
  memory : b.memory = a.memory
  sp : b.registers.word .sp = a.registers.word .sp
  ah : b.registers.byte .ah = a.registers.byte .ah

namespace Alike

variable {a b a' b' : Machine Buffer}

theorem instruction (h : Alike a b) : b.instruction = a.instruction := by
  rw [Machine.instruction, h.memory, h.ip]

theorem service (h : Alike a b) (number : UInt8) : b.service? number = a.service? number := by
  rw [service?, service?, h.ah]

theorem serving (h : Alike a b) : b.serving? = a.serving? := by
  unfold serving? interrupt?
  rw [h.instruction, funext h.service]

theorem top (h : Alike a b) : b.top = a.top := by
  rw [Machine.top, Machine.top, h.memory, h.sp]

theorem setWord (h : Alike a b) {r : Reg16} (other : Reg8.ah.wide ≠ r) (value : Word) :
    Alike (a.setWord r value) (b.setWord r value) where
  ip := h.ip
  memory := h.memory
  sp := by
    simp only [Machine.setWord]
    by_cases stack : r = .sp
    · subst stack
      rw [Registers.word_setWord_self, Registers.word_setWord_self]
    · rw [Registers.word_setWord_of_ne _ stack, Registers.word_setWord_of_ne _ stack, h.sp]
  ah := by
    simp only [Machine.setWord]
    rw [Registers.byte_setWord_of_ne _ other, Registers.byte_setWord_of_ne _ other, h.ah]

theorem setAh (h : Alike a b) (value : UInt8) :
    Alike (a.setByte .ah value) (b.setByte .ah value) where
  ip := h.ip
  memory := h.memory
  sp := by
    simp only [Machine.setByte]
    rw [Registers.word_setByte_of_ne _ (by decide), Registers.word_setByte_of_ne _ (by decide),
      h.sp]
  ah := by
    simp only [Machine.setByte]
    rw [Registers.byte_setByte, Registers.byte_setByte, if_pos rfl, if_pos rfl]

theorem arrive (h : Alike a b) (ip : Address) : Alike (a.arrive ip) (b.arrive ip) where
  ip := rfl
  memory := h.memory
  sp := (h.setWord (by decide) ip.toUInt16).sp
  ah := (h.setWord (by decide) ip.toUInt16).ah

theorem push {value : Word} (h : Alike a b) (push : a.push value = (.ok (), a')) :
    ∃ b', b.push value = (.ok (), b') ∧ Alike a' b' := by
  obtain ⟨sp, memory, room, written, rfl⟩ := push_ok_iff.mp push
  rw [← h.memory] at written
  rw [pushed?, ← h.sp, ← pushed?] at room
  refine ⟨_, push_ok_iff.mpr ⟨sp, memory, room, written, rfl⟩, ?_⟩
  have shifted : Alike (a.setWord .sp sp) (b.setWord .sp sp) := h.setWord (by decide) sp
  exact { ip := h.ip, memory := rfl, sp := shifted.sp, ah := shifted.ah }

/-- A service may return other characters in AL. -/
theorem served {s : Service} (h : Alike a b) (left : Serves a s (.ok ()) a')
    (right : Serves b s (.ok ()) b') : Alike a' b' := by
  obtain ⟨memory, ip, -, -, x, registers⟩ := left.frame
  obtain ⟨memory', ip', -, -, y, registers'⟩ := right.frame
  constructor
  · rw [ip, ip', h.ip]
  · rw [memory, memory', h.memory]
  · rw [registers, registers', Registers.word_setByte_of_ne _ (by decide),
      Registers.word_setByte_of_ne _ (by decide), h.sp]
  · rw [registers, registers', Registers.byte_setByte, Registers.byte_setByte, if_neg (by decide),
      if_neg (by decide), h.ah]

/-- Where one machine goes on the other one does, and they stay alike. -/
theorem step (h : Alike a b) (step : Step a (.ok ()) a') :
    ∃ b', Step b (.ok ()) b' ∧ Alike a' b' := by
  cases step with
  | nop next =>
    rw [← h.instruction] at next
    rw [← h.ip]
    exact ⟨_, .nop next, h.arrive _⟩
  | movAh next =>
    rw [← h.instruction] at next
    rw [← h.ip]
    exact ⟨_, .movAh next, (h.setAh _).arrive _⟩
  | movDx next =>
    rw [← h.instruction] at next
    rw [← h.ip]
    exact ⟨_, .movDx next, (h.setWord (by decide) _).arrive _⟩
  | ret next top =>
    rw [← h.instruction] at next
    rw [← h.top] at top
    rw [← h.sp]
    exact ⟨_, .ret next top, (h.setWord (by decide) _).arrive _⟩
  | int next selects serves =>
    rw [← h.instruction] at next
    rw [← h.service] at selects
    rw [← h.ip]
    obtain ⟨r, served, serves'⟩ := exists_serves b _
    -- A buffer answers, whatever it holds.
    obtain rfl := serves'.buffer
    exact ⟨_, .int next selects serves', (h.served serves serves').arrive _⟩
  | call next push target =>
    rw [← h.instruction] at next
    rw [← h.ip] at push target
    obtain ⟨pushed, push', alike⟩ := h.push push
    exact ⟨_, .call next push' target, alike.arrive _⟩
  | jmp next target =>
    rw [← h.instruction] at next
    rw [← h.ip] at target
    exact ⟨_, .jmp next target, h.arrive _⟩

/-- Neither halts without the other. -/
theorem running (h : Alike a b) (left : Step a (.ok ()) a') (right : Step b (.ok ()) b')
    (runs : b.status = .running) (runs' : a'.status = .running) : b'.status = .running := by
  have here := left.handled.status
  rw [runs'] at here
  rw [right.handled.status, h.serving, runs]
  cases serving : a.serving? with
  | none => rfl
  | some s =>
    rw [serving] at here
    cases s with
    | terminate | exit => cases here
    | readChar | writeCharEcho | writeChar | directConsole | printString => rfl

/-- Machines that are alike at the start are alike after as many steps. -/
theorem after (h : Alike a b) (runs : b.status = .running) {n : Nat}
    (awake : ∀ k ≤ n, ∀ m, a.after? k = some m → m.status = .running)
    (reached : a.after? n = some a') :
    ∃ b', b.after? n = some b' ∧ Alike a' b' ∧ b'.status = .running := by
  induction n generalizing a' with
  | zero =>
    cases reached
    exact ⟨b, rfl, h, runs⟩
  | succ n ih =>
    obtain ⟨m, before, left⟩ := after?_succ_iff.mp reached
    obtain ⟨m', before', alike, running⟩ := ih (fun k le => awake k (Nat.le_succ_of_le le)) before
    obtain ⟨b', right, alike'⟩ := alike.step left
    have running' := alike.running left right running (awake _ (Nat.le_refl _) _ reached)
    exact ⟨b', after?_succ_iff.mpr ⟨m', before', right⟩, alike', running'⟩

end Alike

/-- After `i` and after `j` steps the machine is at the same point, and it has not
halted by then. -/
structure Recurs (s : Machine Buffer) (i j : Nat) : Prop where
  lt : i < j
  awake : ∀ k ≤ j, ∀ m, s.after? k = some m → m.status = .running
  again : ∃ a b, s.after? i = some a ∧ s.after? j = some b ∧ Alike a b

/-- From there on it does as it did a round before. -/
theorem Recurs.round {s : Machine Buffer} {i j : Nat} (h : Recurs s i j) (n : Nat) :
    ∃ a b, s.after? (i + n) = some a ∧ s.after? (j + n) = some b ∧ Alike a b ∧
      b.status = .running := by
  have lt := h.lt
  induction n using Nat.strongRecOn with
  | ind n ih =>
    cases n with
    | zero =>
      obtain ⟨a, b, first, second, alike⟩ := h.again
      exact ⟨a, b, first, second, alike, h.awake j (Nat.le_refl j) b second⟩
    | succ n =>
      obtain ⟨a, b, before, behind, alike, running⟩ := ih n (Nat.lt_succ_self n)
      -- The machine a round before is one of the first, or it is itself one that has gone round.
      obtain ⟨a', next, running'⟩ : ∃ a', s.after? (i + n + 1) = some a' ∧
          a'.status = .running := by
        rcases Nat.lt_or_ge (i + n) j with early | late
        · obtain ⟨_, _, _, second, _⟩ := h.again
          obtain ⟨-, c, -, -, there⟩ := after?_of_lt second early
          exact ⟨c, there, h.awake _ early c there⟩
        · obtain ⟨-, c, -, there, -, running⟩ := ih (i + n + 1 - j) (by omega)
          rw [Nat.add_sub_cancel' (Nat.le_succ_of_le late)] at there
          exact ⟨c, there, running⟩
      obtain ⟨a'', before', left⟩ := after?_succ_iff.mp next
      cases before.symm.trans before'
      obtain ⟨b', right, alike'⟩ := alike.step left
      have running := alike.running left right running running'
      exact ⟨a', b', next, after?_succ_iff.mpr ⟨b, behind, right⟩, alike', running⟩

/-- It makes any number of steps and never halts. -/
theorem Recurs.goes_round {s : Machine Buffer} {i j : Nat} (h : Recurs s i j) (n : Nat) :
    ∃ m, s.after? n = some m ∧ m.status = .running := by
  rcases Nat.lt_or_ge n j with early | late
  · obtain ⟨_, _, _, second, _⟩ := h.again
    obtain ⟨m, -, there, -⟩ := after?_of_lt second early
    exact ⟨m, there, h.awake n (Nat.le_of_lt early) m there⟩
  · obtain ⟨-, m, -, there, -, running⟩ := h.round (n - j)
    rw [Nat.add_sub_cancel' late] at there
    exact ⟨m, there, running⟩

/-- So every run of it ends at its limit. -/
theorem Recurs.run {s : Machine Buffer} {i j : Nat} (h : Recurs s i j) {limit : UInt64}
    (low : s.steps ≤ limit) : (s.run limit).1 = .ok .stepLimit ∧ (s.run limit).2.steps = limit := by
  obtain ⟨r, m, runs⟩ := exists_runs limit s
  obtain ⟨k, a, reached, concludes, -, few, count⟩ := runs.iterates
  -- Where the run stopped the machine is running, and it has a step to make.
  obtain ⟨a', there, running⟩ := h.goes_round k
  obtain ⟨_, behind, -⟩ := h.goes_round (k + 1)
  cases reached.symm.trans there
  obtain ⟨a'', there', step⟩ := after?_succ_iff.mp behind
  cases reached.symm.trans there'
  rw [runs.run_eq]
  cases concludes with
  | halted status =>
    rw [running] at status
    cases status
  | stepLimit _ spent =>
    refine ⟨rfl, ?_⟩
    show m.steps = limit
    have spent := UInt64.le_iff_toNat_le.mp spent
    have low := UInt64.le_iff_toNat_le.mp low
    rw [budget] at few
    exact UInt64.toNat_inj.mp (by omega)
  | endOfMemory _ _ outside =>
    obtain ⟨i, -, next, -⟩ := step.changes
    exact absurd (Instruction.inside_of_fetch next) (Nat.not_lt_of_le outside)
  | fault _ _ _ fails => cases step.step_eq.symm.trans fails

theorem Recurs.of_alike {s t : Machine Buffer} {i j : Nat} (h : Recurs s i j) (alike : Alike s t)
    (running : t.status = .running) : Recurs t i j := by
  obtain ⟨a, b, first, second, same⟩ := h.again
  have early (k : Nat) (le : k ≤ i) : k ≤ j := Nat.le_trans le (Nat.le_of_lt h.lt)
  obtain ⟨a', first', left, -⟩ := alike.after running (fun k le => h.awake k (early k le)) first
  obtain ⟨b', second', right, awake⟩ := alike.after running h.awake second
  refine ⟨h.lt, fun k le m there => ?_, a', b', first', second', ?_⟩
  · obtain ⟨m', there', -⟩ := h.goes_round k
    have upTo (l : Nat) (le' : l ≤ k) := h.awake l (Nat.le_trans le' le)
    obtain ⟨m'', there'', -, running⟩ := alike.after running upTo there'
    cases there.symm.trans there''
    exact running
  · constructor
    · rw [left.ip, right.ip, same.ip]
    · rw [left.memory, right.memory, same.memory]
    · rw [left.sp, right.sp, same.sp]
    · rw [left.ah, right.ah, same.ah]

theorem alike_loaded (name : String) (image : List UInt8) (b c : Buffer) :
    Alike (loaded name image b) (loaded name image c) :=
  ⟨rfl, rfl, rfl, rfl⟩

/-- A program that comes to the same point again never ends by itself. If `j` steps succeed without
a halt and the machines after `i` and after `j` steps are alike, whatever AL, DX and the console
hold, then every run from the start ends at its limit, having made as many steps. So does every run
on another input. -/
theorem repetition_has_no_end (name : String) {image : List UInt8} (input : List UInt8)
    (fits : image.length ≤ maxImageSize) :
    ∃ s, load name image (Buffer.ofInput input) = .ok s ∧ ∀ i j a b, i < j →
      s.after? i = some a → s.after? j = some b →
      (∀ k ≤ j, ∀ m, s.after? k = some m → m.status = .running) → Alike a b →
      ∀ limit, ((s.run limit).1 = .ok .stepLimit ∧ (s.run limit).2.steps = limit) ∧
        ∀ v t, load name image (Buffer.ofInput v) = .ok t →
          (t.run limit).1 = .ok .stepLimit ∧ (t.run limit).2.steps = limit := by
  refine ⟨_, load_eq name _ fits, ?_⟩
  intro i j a b lt first second awake alike limit
  have recurs : Recurs (loaded name image (Buffer.ofInput input)) i j :=
    ⟨lt, awake, a, b, first, second, alike⟩
  have low : (0 : UInt64) ≤ limit := UInt64.zero_le
  refine ⟨recurs.run low, fun v t there => ?_⟩
  rw [eq_loaded there]
  exact (recurs.of_alike (alike_loaded name image _ _) rfl).run low

/-- A program that reads characters for ever. Its second round begins with another character in AL
and less input than the first one. -/
theorem repetition_has_no_end_reading :
    ∃ s, load "a.com" [0xB4, 1, 0xCD, 0x21, 0xEB, 0xFC] (Buffer.ofInput [7, 8]) = .ok s ∧
      (s.run 1000).1 = .ok .stepLimit ∧ (s.run 1000).2.steps = 1000 := by
  have fits : ([0xB4, 1, 0xCD, 0x21, 0xEB, 0xFC] : List UInt8).length ≤ maxImageSize := by decide
  obtain ⟨s, load, endless⟩ := repetition_has_no_end "a.com" [7, 8] fits
  have eq := eq_loaded load
  have ip : s.ip = 0x100 := by rw [eq]; rfl
  have code (i : Nat) (lt : i < 6) :
      s.memory.cells[0x100 + i]? = [0xB4, 1, 0xCD, 0x21, 0xEB, 0xFC][i]? := by
    rw [eq]
    exact image_loaded _ _ fits lt
  obtain ⟨m, read⟩ : ∃ m, CallsFor s 1 .readChar m := by
    refine exists_callsFor (by decide) fun i lt => ?_
    have cell := code i (by omega)
    rw [ip]
    have inside : i < ([0xB4, 1, 0xCD, 0x21] : List UInt8).length := lt
    exact cell.trans (List.getElem?_append_left inside)
  have there : m.ip = 0x104 := by rw [read.ip, ip]; rfl
  have jump : m.instruction = .ok (.jmp (-4)) := by
    rw [instruction, read.memory, there, Instruction.fetch_jmp_iff]
    exact ⟨code 4 (by decide), 0xFC, code 5 (by decide), rfl⟩
  have back : Step m (.ok ()) (m.arrive 0x102) := by
    refine .jmp jump ?_
    rw [there]
    rfl
  have one : s.after? 1 = some (s.selecting 1) := after?_succ_iff.mpr ⟨s, rfl, read.load⟩
  have two : s.after? 2 = some m := after?_succ_iff.mpr ⟨_, one, read.step⟩
  have three : s.after? 3 = some (m.arrive 0x102) := after?_succ_iff.mpr ⟨m, two, back⟩
  have running : s.status = .running := by rw [eq]; rfl
  have awake : ∀ k ≤ 3, ∀ a, s.after? k = some a → a.status = .running := by
    have read : m.status = .running := read.handled.status.trans running
    intro k le a reached
    obtain rfl | rfl | rfl | rfl : k = 0 ∨ k = 1 ∨ k = 2 ∨ k = 3 := by omega
    · cases reached
      exact running
    · cases one.symm.trans reached
      exact running
    · cases two.symm.trans reached
      exact read
    · cases three.symm.trans reached
      exact read
  have int := interrupt?_eq_some_iff.mp (selector?_eq_some_iff.mp read.selects).1
  obtain ⟨_, rs, next, changes, registers⟩ := read.step.changes
  cases int.symm.trans next
  have alike : Alike (s.selecting 1) (m.arrive 0x102) := by
    constructor
    · exact congrArg (· + 2) ip.symm
    · exact read.memory
    · rw [arrive, Registers.word_setWord_of_ne _ (by decide), registers,
        Registers.word_setWord_of_ne _ (by decide)]
      exact UInt16.toNat_inj.mp changes.sp
    · rw [arrive, Registers.byte_setWord_of_ne _ (by decide), registers,
        Registers.byte_setWord_of_ne _ (by decide)]
      exact changes.ah fun value load => by cases load
  exact ⟨s, load, (endless 1 3 _ _ (by decide) one three awake alike 1000).1⟩

end Micro86.Machine
