import Micro86.Proofs.History
import Micro86.Proofs.Run

/-!
# A machine on a buffer beside one on another console

A `Coupling` says how a console may differ from a buffer: which characters it may read instead, and
that it may fail a number of times without effect. Machines that differ by no more than this keep
doing so: `Machines.step` for a step, `Machines.runs` for a run. AL and the exit code are all that a
character gets into; where it is the same character, the consoles are all that differs:
`Exact.machines_eq`.
-/

namespace Micro86

/-- How the answers of a console compare with those of a buffer. -/
structure Coupling (κ : Type) [Console κ] where
  /-- A character of the buffer and the one read in its place. -/
  Chars : UInt8 → UInt8 → Prop
  Consoles : Buffer → κ → Prop
  /-- How many calls can still fail. -/
  failures : κ → Nat
  chars_self (a : UInt8) : Chars a a
  read {b : Buffer} {c d : κ} {byte : Option UInt8} (h : Consoles b c)
    (answer : Console.readByte c = (.ok byte, d)) :
    Chars (b.readByte.1.getD endOfInput) (byte.getD endOfInput) ∧ Consoles b.readByte.2 d ∧
      failures d ≤ failures c
  unread {b : Buffer} {c d : κ} {text : String} (h : Consoles b c)
    (answer : Console.readByte c = (.error text, d)) : Consoles b d ∧ failures d < failures c
  wrote {b : Buffer} {c d : κ} {bytes : List UInt8} (h : Consoles b c)
    (answer : Console.writeBytes c bytes = (.ok (), d)) :
    Consoles (b.write bytes) d ∧ failures d ≤ failures c
  unwritten {b : Buffer} {c d : κ} {bytes : List UInt8} {text : String} (h : Consoles b c)
    (answer : Console.writeBytes c bytes = (.error text, d)) :
    Consoles b d ∧ failures d < failures c

namespace Coupling

variable {κ : Type} [Console κ] (C : Coupling κ)

/-- Banks that differ in AL only. -/
def Banks (a b : Registers) : Prop :=
  ∃ al, b = a.setByte .al al ∧ C.Chars (a.byte .al) al

inductive Statuses : Status → Status → Prop where
  | running : Statuses .running .running
  | halted {a b : UInt8} (chars : C.Chars a b) : Statuses (.halted a) (.halted b)

/-- Results of runs that differ in the exit code only. -/
inductive Results : Except Fault Outcome → Except Fault Outcome → Prop where
  | halted {a b : UInt8} (chars : C.Chars a b) : Results (.ok (.halted a)) (.ok (.halted b))
  | same (r : Except Fault Outcome) : Results r r

structure Machines (s : Machine Buffer) (t : Machine κ) : Prop where
  registers : C.Banks s.registers t.registers
  memory : t.memory = s.memory
  console : C.Consoles s.console t.console
  ip : t.ip = s.ip
  status : C.Statuses s.status t.status
  steps : t.steps = s.steps
  program : t.program = s.program

variable {C}

namespace Banks

variable {a b : Registers}

theorem self (a : Registers) : C.Banks a a :=
  ⟨a.byte .al, (a.setByte_byte .al).symm, C.chars_self _⟩

theorem al (h : C.Banks a b) : C.Chars (a.byte .al) (b.byte .al) := by
  obtain ⟨al, rfl, chars⟩ := h
  rw [Registers.byte_setByte, if_pos rfl]
  exact chars

theorem byte (h : C.Banks a b) {r : Reg8} (other : r ≠ .al) : b.byte r = a.byte r := by
  obtain ⟨al, rfl, -⟩ := h
  rw [Registers.byte_setByte, if_neg other.symm]

theorem word (h : C.Banks a b) {r : Reg16} (other : r ≠ .ax) : b.word r = a.word r := by
  obtain ⟨al, rfl, -⟩ := h
  exact a.word_setByte_of_ne (Ne.symm other) al

theorem setWord (h : C.Banks a b) {r : Reg16} (other : r ≠ .ax) (value : Word) :
    C.Banks (a.setWord r value) (b.setWord r value) := by
  obtain ⟨al, rfl, chars⟩ := h
  refine ⟨al, a.setWord_setByte_comm (Ne.symm other) al value, ?_⟩
  rwa [a.byte_setWord_of_ne (Ne.symm other)]

theorem setByte (h : C.Banks a b) {r : Reg8} (other : r ≠ .al) (value : UInt8) :
    C.Banks (a.setByte r value) (b.setByte r value) := by
  obtain ⟨al, rfl, chars⟩ := h
  refine ⟨al, a.setByte_comm other.symm al value, ?_⟩
  rwa [Registers.byte_setByte, if_neg other]

theorem setAl (h : C.Banks a b) {x y : UInt8} (chars : C.Chars x y) :
    C.Banks (a.setByte .al x) (b.setByte .al y) := by
  obtain ⟨al, rfl, -⟩ := h
  refine ⟨y, by simp only [Registers.setByte_setByte], ?_⟩
  rwa [Registers.byte_setByte, if_pos rfl]

end Banks

namespace Machines

open Machine

variable {s : Machine Buffer} {t : Machine κ}

theorem instruction (h : C.Machines s t) : t.instruction = s.instruction := by
  rw [Machine.instruction, h.memory, h.ip]

theorem service (h : C.Machines s t) (number : UInt8) : t.service? number = s.service? number := by
  rw [service?, service?, h.registers.byte (by decide)]

theorem top (h : C.Machines s t) : t.top = s.top := by
  rw [Machine.top, Machine.top, h.memory, h.registers.word (by decide)]

theorem pushed (h : C.Machines s t) : t.pushed? = s.pushed? := by
  rw [pushed?, pushed?, h.registers.word (by decide)]

theorem written (h : C.Machines s t) (v : Service) : t.written? v = s.written? v := by
  have dl : t.registers.byte .dl = s.registers.byte .dl := h.registers.byte (by decide)
  have dx : t.registers.word .dx = s.registers.word .dx := h.registers.word (by decide)
  cases v with
  | writeCharEcho | writeChar | directConsole => simp only [written?, dl]
  | printString => simp only [written?, printed, h.memory, dx]
  | terminate | readChar | exit => rfl

theorem setByte (h : C.Machines s t) {r : Reg8} (other : r ≠ .al) (value : UInt8) :
    C.Machines (s.setByte r value) (t.setByte r value) :=
  { h with registers := h.registers.setByte other value }

theorem setWord (h : C.Machines s t) {r : Reg16} (other : r ≠ .ax) (value : Word) :
    C.Machines (s.setWord r value) (t.setWord r value) :=
  { h with registers := h.registers.setWord other value }

theorem setAl (h : C.Machines s t) {x y : UInt8} (chars : C.Chars x y) :
    C.Machines (s.setByte .al x) (t.setByte .al y) :=
  { h with registers := h.registers.setAl chars }

theorem halt (h : C.Machines s t) {x y : UInt8} (chars : C.Chars x y) :
    C.Machines (s.halt x) (t.halt y) :=
  { h with status := .halted chars }

theorem speak (h : C.Machines s t) {b : Buffer} {c : κ} (consoles : C.Consoles b c) :
    C.Machines { s with console := b } { t with console := c } :=
  { h with console := consoles }

theorem arrive (h : C.Machines s t) (ip : Address) : C.Machines (s.arrive ip) (t.arrive ip) :=
  { h with
    registers := h.registers.setWord (by decide) _
    ip := rfl
    steps := congrArg (· + 1) h.steps }

theorem echo (h : C.Machines s t) (v : Service) : C.Machines (s.echo v) (t.echo v) := by
  cases v with
  | writeCharEcho | directConsole =>
    apply h.setAl
    rw [h.registers.byte (by decide)]
    exact C.chars_self _
  | terminate | readChar | writeChar | printString | exit => exact h

theorem push {t' : Machine κ} {value : Word} {r : Except Fault Unit} (h : C.Machines s t)
    (push : t.push value = (r, t')) :
    ∃ s', s.push value = (r, s') ∧ C.Machines s' t' ∧
      C.failures t'.console ≤ C.failures t.console := by
  cases r with
  | error f =>
    obtain ⟨full, rfl, rfl⟩ := push_error_iff.mp push
    rw [h.pushed] at full
    exact ⟨s, push_error_iff.mpr ⟨full, rfl, rfl⟩, h, Nat.le_refl _⟩
  | ok =>
    obtain ⟨sp, memory, room, written, rfl⟩ := push_ok_iff.mp push
    rw [h.pushed] at room
    rw [h.memory] at written
    refine ⟨_, push_ok_iff.mpr ⟨sp, memory, room, written, rfl⟩, ?_, Nat.le_refl _⟩
    exact { h with registers := h.registers.setWord (by decide) sp, memory := rfl }

/-- What a console may do to the machine that a buffer does not: fail, with nothing changed but for
one failure less that is left. -/
structure Interrupts {α : Type} (C : Coupling κ) (s : Machine Buffer) (t : Machine κ)
    (r : Except Fault α) (t' : Machine κ) : Prop where
  console : ∃ text, r = .error (.console text)
  machines : C.Machines s t'
  fewer : C.failures t'.console < C.failures t.console

theorem serves {t' : Machine κ} {v : Service} {r : Except Fault Unit} (h : C.Machines s t)
    (serves : Serves t v r t') :
    (∃ s', Serves s v r s' ∧ C.Machines s' t' ∧ C.failures t'.console ≤ C.failures t.console) ∨
      Interrupts C s t r t' := by
  cases serves with
  | terminate => exact .inl ⟨_, .terminate, h.halt (C.chars_self 0), Nat.le_refl _⟩
  | exit => exact .inl ⟨_, .exit, h.halt h.registers.al, Nat.le_refl _⟩
  | received answer =>
    obtain ⟨chars, consoles, le⟩ := C.read h.console answer
    exact .inl ⟨_, .received rfl, (h.speak consoles).setAl chars, le⟩
  | unread answer =>
    obtain ⟨consoles, lt⟩ := C.unread h.console answer
    exact .inr ⟨⟨_, rfl⟩, h.speak consoles, lt⟩
  | wrote writes answer =>
    obtain ⟨consoles, le⟩ := C.wrote h.console answer
    rw [h.written] at writes
    refine .inl ⟨_, .wrote writes rfl, (h.speak consoles).echo v, ?_⟩
    cases v <;> exact le
  | unwritten writes answer =>
    obtain ⟨consoles, lt⟩ := C.unwritten h.console answer
    exact .inr ⟨⟨_, rfl⟩, h.speak consoles, lt⟩

/-- Machines side by side take the same step, unless the console interrupts it. -/
theorem step {t' : Machine κ} {r : Except Fault Unit} (h : C.Machines s t) (step : Step t r t') :
    (∃ s', Step s r s' ∧ C.Machines s' t' ∧ C.failures t'.console ≤ C.failures t.console) ∨
      Interrupts C s t r t' := by
  cases step with
  | unreadable next =>
    rw [h.instruction] at next
    exact .inl ⟨s, .unreadable next, h, Nat.le_refl _⟩
  | nop next =>
    rw [h.instruction] at next
    rw [h.ip]
    exact .inl ⟨_, .nop next, h.arrive _, Nat.le_refl _⟩
  | movAh next =>
    rw [h.instruction] at next
    rw [h.ip]
    exact .inl ⟨_, .movAh next, (h.setByte (by decide) _).arrive _, Nat.le_refl _⟩
  | movDx next =>
    rw [h.instruction] at next
    rw [h.ip]
    exact .inl ⟨_, .movDx next, (h.setWord (by decide) _).arrive _, Nat.le_refl _⟩
  | ret next top =>
    rw [h.instruction] at next
    rw [h.top] at top
    rw [h.registers.word (by decide)]
    exact .inl ⟨_, .ret next top, (h.setWord (by decide) _).arrive _, Nat.le_refl _⟩
  | retFails next top =>
    rw [h.instruction] at next
    rw [h.top] at top
    exact .inl ⟨s, .retFails next top, h, Nat.le_refl _⟩
  | int next selects serves =>
    rw [h.instruction] at next
    rw [h.service] at selects
    rw [h.ip]
    rcases h.serves serves with ⟨s', serves', machines, le⟩ | ⟨⟨text, failed⟩, -, -⟩
    · exact .inl ⟨_, .int next selects serves', machines.arrive _, le⟩
    · cases failed
  | intFails next selects serves =>
    rw [h.instruction] at next
    rw [h.service] at selects
    rcases h.serves serves with ⟨s', serves', machines, le⟩ | interrupts
    · exact .inl ⟨_, .intFails next selects serves', machines, le⟩
    · exact .inr ⟨interrupts.console, interrupts.machines, interrupts.fewer⟩
  | noService next selects =>
    rw [h.instruction] at next
    rw [h.service] at selects
    rw [h.registers.byte (by decide)]
    exact .inl ⟨s, .noService next selects, h, Nat.le_refl _⟩
  | call next push target =>
    rw [h.instruction] at next
    rw [h.ip] at push target
    obtain ⟨s', push', machines, le⟩ := h.push push
    exact .inl ⟨_, .call next push' target, machines.arrive _, le⟩
  | callFails next push =>
    rw [h.instruction] at next
    rw [h.ip] at push
    obtain ⟨s', push', machines, le⟩ := h.push push
    exact .inl ⟨_, .callFails next push', machines, le⟩
  | callBelow next push target =>
    rw [h.instruction] at next
    rw [h.ip] at push target
    obtain ⟨s', push', machines, le⟩ := h.push push
    exact .inl ⟨_, .callBelow next push' target, machines, le⟩
  | jmp next target =>
    rw [h.instruction] at next
    rw [h.ip] at target
    exact .inl ⟨_, .jmp next target, h.arrive _, Nat.le_refl _⟩
  | jmpBelow next target =>
    rw [h.instruction] at next
    rw [h.ip] at target
    exact .inl ⟨s, .jmpBelow next target, h, Nat.le_refl _⟩

theorem goes {limit : UInt64} (h : C.Machines s t) (goes : t.stop? limit = none) :
    s.stop? limit = none := by
  rw [stop?_eq_none_iff] at goes ⊢
  obtain ⟨running, more, inside⟩ := goes
  rw [h.steps] at more
  rw [h.ip] at inside
  have status := h.status
  rw [running] at status
  generalize s.status = a at status
  cases status
  exact ⟨rfl, more, inside⟩

theorem stops {limit : UInt64} {o : Outcome} (h : C.Machines s t) (stops : t.stop? limit = some o) :
    ∃ o', s.stop? limit = some o' ∧ C.Results (.ok o') (.ok o) := by
  rw [stop?, h.steps, h.ip] at stops
  rw [stop?]
  have status := h.status
  generalize s.status = a, t.status = b at status stops ⊢
  cases status with
  | running => exact ⟨o, stops, .same _⟩
  | halted chars =>
    cases stops
    exact ⟨_, rfl, .halted chars⟩

/-- So do their runs. One that is interrupted has come to where the other one passes by. -/
theorem runs {t' : Machine κ} {limit : UInt64} {r : Except Fault Outcome} (h : C.Machines s t)
    (runs : Runs limit t r t') :
    (∃ q s', Runs limit s q s' ∧ C.Results q r ∧ C.Machines s' t' ∧
      C.failures t'.console ≤ C.failures t.console) ∨
    ∃ s', s.run limit = s'.run limit ∧ Interrupts C s' t r t' := by
  induction runs generalizing s with
  | stop stops =>
    obtain ⟨o, stops', results⟩ := h.stops stops
    exact .inl ⟨_, s, .stop stops', results, h, Nat.le_refl _⟩
  | fail goes step =>
    rcases h.step step with ⟨s', step', machines, le⟩ | interrupts
    · exact .inl ⟨_, s', .fail (h.goes goes) step', .same _, machines, le⟩
    · obtain ⟨text, failed⟩ := interrupts.console
      cases failed
      exact .inr ⟨s, rfl, ⟨_, rfl⟩, interrupts.machines, interrupts.fewer⟩
  | next goes step _ ih =>
    rcases h.step step with ⟨s', step', machines, le⟩ | ⟨⟨text, failed⟩, -, -⟩
    · rcases ih machines with ⟨q, s'', rest, results, finals, le'⟩ | ⟨s'', same, interrupts⟩
      · exact .inl ⟨q, s'', .next (h.goes goes) step' rest, results, finals, Nat.le_trans le' le⟩
      · refine .inr ⟨s'', (run_next (h.goes goes) step').trans same, ?_⟩
        exact { interrupts with fewer := Nat.lt_of_lt_of_le interrupts.fewer le }
    · cases failed

/-- Without failures the steps answer the same. -/
theorem stepping (h : C.Machines s t) (sure : C.failures t.console = 0) (n : Nat) :
    (t.stepping n).1 = (s.stepping n).1 ∧ C.Machines (s.stepping n).2 (t.stepping n).2 := by
  suffices ∃ answers s' t', s.stepping n = (answers, s') ∧ t.stepping n = (answers, t') ∧
      C.Machines s' t' ∧ C.failures t'.console = 0 by
    obtain ⟨answers, s', t', left, right, machines, -⟩ := this
    rw [left, right]
    exact ⟨rfl, machines⟩
  induction n with
  | zero => exact ⟨[], s, t, rfl, rfl, h, sure⟩
  | succ n ih =>
    obtain ⟨answers, a, b, left, right, machines, none⟩ := ih
    obtain ⟨r, b', step⟩ := exists_step b
    rcases machines.step step with ⟨a', step', machines', le⟩ | interrupts
    · exact ⟨_, a', b', stepping_succ left step', stepping_succ right step, machines',
        Nat.le_zero.mp (none ▸ le)⟩
    · exact absurd interrupts.fewer (by rw [none]; exact Nat.not_lt_zero _)

theorem run (h : C.Machines s t) (sure : C.failures t.console = 0) (limit : UInt64) :
    C.Results (s.run limit).1 (t.run limit).1 ∧ C.Machines (s.run limit).2 (t.run limit).2 := by
  obtain ⟨r, t', right⟩ := exists_runs limit t
  rcases h.runs right with ⟨q, s', left, results, machines, -⟩ | ⟨s', -, interrupts⟩
  · rw [left.run_eq, right.run_eq]
    exact ⟨results, machines⟩
  · exact absurd interrupts.fewer (by rw [sure]; exact Nat.not_lt_zero _)

end Machines

/-- Whether the same characters are read. -/
def Exact (C : Coupling κ) : Prop :=
  ∀ a b, C.Chars a b → a = b

theorem Exact.results_eq (exact : C.Exact) {q r : Except Fault Outcome} (h : C.Results q r) :
    r = q := by
  cases h with
  | halted chars => rw [exact _ _ chars]
  | same => rfl

/-- Then machines differ in the console only. -/
theorem Exact.machines_eq (exact : C.Exact) {s : Machine Buffer} {t : Machine κ}
    (h : C.Machines s t) :
    { t with console := s.console } = s := by
  have registers : t.registers = s.registers := by
    obtain ⟨al, eq, chars⟩ := h.registers
    rw [eq, ← exact _ _ chars, Registers.setByte_byte]
  have status : t.status = s.status := by
    have status := h.status
    generalize s.status = a, t.status = b at status ⊢
    cases status with
    | running => rfl
    | halted chars => rw [exact _ _ chars]
  rw [registers, h.memory, h.ip, status, h.steps, h.program]

/-- Machines into which the same image is loaded. -/
theorem machines_loaded (name : String) (image : List UInt8) {b : Buffer} {c : κ}
    (consoles : C.Consoles b c) :
    C.Machines (Machine.loaded name image b) (Machine.loaded name image c) where
  registers := .self _
  memory := rfl
  console := consoles
  ip := rfl
  status := .running
  steps := rfl
  program := rfl

end Coupling

end Micro86
