import Micro86.Proofs.Effects
import Micro86.Proofs.Faults
import Micro86.Proofs.Session

/-!
# What a failing step leaves behind

Nothing has changed, and of the console at most a call that failed was made: `Aftermath`.
The one exception is a call to an address below 0, which has pushed where to return to
before it fails, `Doomed`.
-/

namespace Micro86.Machine

variable {κ : Type}

/-- The next instruction is a call that pushes, but whose target lies below address 0. -/
def Doomed (m : Machine κ) : Prop :=
  ∃ displacement : Int8, m.instruction = .ok (.call displacement) ∧
    (m.registers.word .sp).toNat < 0xFFFE ∧ (m.ip.toNat : Int) + 3 + displacement.toInt < 0

theorem not_doomed {m : Machine κ}
    (other : ∀ displacement, m.instruction ≠ .ok (.call displacement)) :
    ¬ m.Doomed := by
  rintro ⟨displacement, call, -⟩
  exact other displacement call

variable [Console κ]

/-- What became of the console in a step that fails: no call was made, or one that failed. -/
inductive Unheard (c : κ) : Fault → κ → Prop where
  | uncalled {f : Fault} (silent : ∀ text, f ≠ .console text) : Unheard c f c
  | unread {text : String} {d : κ} (answer : Console.readByte c = (.error text, d)) :
      Unheard c (.console text) d
  | unwritten {bytes : List UInt8} {text : String} {d : κ}
      (answer : Console.writeBytes c bytes = (.error text, d)) : Unheard c (.console text) d

/-- A console that counts the calls of it that succeeded. -/
structure Counted (κ : Type) where
  console : κ
  succeeded : Nat

instance : Console (Counted κ) where
  readByte c :=
    match Console.readByte c.console with
    | (.error text, d) => (.error text, { c with console := d })
    | (.ok byte, d) => (.ok byte, ⟨d, c.succeeded + 1⟩)
  writeBytes c bytes :=
    match Console.writeBytes c.console bytes with
    | (.error text, d) => (.error text, { c with console := d })
    | (.ok (), d) => (.ok (), ⟨d, c.succeeded + 1⟩)

theorem Unheard.succeeded_eq {c d : Counted κ} {f : Fault} (h : Unheard c f d) :
    d.succeeded = c.succeeded := by
  cases h with
  | uncalled => rfl
  | unread answer =>
    simp only [Console.readByte] at answer
    split at answer
    · cases answer
      rfl
    · cases answer
  | unwritten answer =>
    simp only [Console.writeBytes] at answer
    split at answer
    · cases answer
      rfl
    · cases answer

/-- How a step from `m` that fails with `f` leaves the machine `m'`. -/
structure Aftermath (m : Machine κ) (f : Fault) (m' : Machine κ) : Prop where
  ip : m'.ip = m.ip
  steps : m'.steps = m.steps
  status : m'.status = m.status
  program : m'.program = m.program
  words : ∀ r, r ≠ .sp → m'.registers.word r = m.registers.word r
  console : Unheard m.console f m'.console
  whole : ¬ m.Doomed → m'.registers.word .sp = m.registers.word .sp ∧ m'.memory = m.memory
  pushed : m.Doomed →
    (m'.registers.word .sp).toNat = (m.registers.word .sp).toNat + 2 ∧
    (∀ i, i ≠ memorySize - (m'.registers.word .sp).toNat →
      i ≠ memorySize - (m'.registers.word .sp).toNat + 1 →
        m'.memory.cells[i]? = m.memory.cells[i]?) ∧
    m'.memory.read16 (slot (m'.registers.word .sp)) = .ok (returnOffset (m.ip + 3))

/-- Most faults are found before anything changes. -/
theorem Aftermath.unchanged {m : Machine κ} {f : Fault} {c : κ} (sound : ¬ m.Doomed)
    (console : Unheard m.console f c) : Aftermath m f { m with console := c } where
  ip := rfl
  steps := rfl
  status := rfl
  program := rfl
  words _ _ := rfl
  console := console
  whole _ := ⟨rfl, rfl⟩
  pushed doomed := absurd doomed sound

theorem Serves.unheard {m m' : Machine κ} {s : Service} {f : Fault} (h : Serves m s (.error f) m') :
    Unheard m.console f m'.console ∧ m' = { m with console := m'.console } := by
  cases h with
  | unread answer => exact ⟨.unread answer, rfl⟩
  | unwritten writes answer => exact ⟨.unwritten answer, rfl⟩

/-- A call that pushes and then fails changes SP and the two bytes of its slot. -/
theorem Aftermath.call {m pushed : Machine κ} {displacement : Int8} {f : Fault}
    (next : m.instruction = .ok (.call displacement))
    (push : m.push (returnOffset ((Instruction.call displacement).next m.ip)) = (.ok (), pushed))
    (target : Instruction.target ((Instruction.call displacement).next m.ip) displacement =
      .error f) :
    Aftermath m f pushed := by
  obtain ⟨sp, memory, room, written, rfl⟩ := push_ok_iff.mp push
  obtain ⟨lt, rfl⟩ := pushed?_eq_some_iff.mp room
  have inside := Instruction.inside_of_fetch next
  obtain ⟨below, rfl⟩ := (Instruction.target_next_eq_error_iff inside).mp target
  have doomed : m.Doomed := ⟨displacement, next, lt, below⟩
  have grown := toNat_grown lt
  have place := toNat_slot (m.registers.word .sp + 2)
  constructor
  · rfl
  · rfl
  · rfl
  · rfl
  · intro r other
    exact m.registers.word_setWord_of_ne other.symm _
  · exact .uncalled nofun
  · exact absurd doomed
  · intro _
    simp only [Registers.word_setWord_self]
    refine ⟨grown, fun i low high => ?_, Memory.read16_of_write16 written⟩
    rw [← place] at low high
    exact Memory.getElem?_of_write16 written low high

theorem Step.aftermath {m m' : Machine κ} {f : Fault} (step : Step m (.error f) m') :
    Aftermath m f m' := by
  generalize failed : (Except.error f : Except Fault Unit) = r at step
  cases step with
  | nop | movAh | movDx | ret | int | call | jmp => cases failed
  | unreadable next =>
    cases failed
    refine .unchanged (not_doomed (by rw [next]; nofun)) (.uncalled ?_)
    rintro text rfl
    exact Instruction.fetch_ne_console _ _ _ next
  | retFails next top =>
    cases failed
    refine .unchanged (not_doomed (by rw [next]; nofun)) (.uncalled ?_)
    rintro text rfl
    exact top_ne_console _ _ top
  | intFails next selects serves =>
    cases failed
    obtain ⟨unheard, eq⟩ := serves.unheard
    rw [eq]
    exact .unchanged (not_doomed (by rw [next]; nofun)) unheard
  | noService next =>
    cases failed
    exact .unchanged (not_doomed (by rw [next]; nofun)) (.uncalled nofun)
  | callFails next push =>
    cases failed
    obtain ⟨full, rfl, rfl⟩ := push_error_iff.mp push
    refine .unchanged ?_ (.uncalled nofun)
    rintro ⟨-, -, room, -⟩
    exact Nat.not_lt_of_le (pushed?_eq_none_iff.mp full) room
  | callBelow next push target =>
    cases failed
    exact .call next push target
  | jmpBelow next target =>
    cases failed
    obtain ⟨-, rfl⟩ := Instruction.target_eq_error_iff.mp target
    exact .unchanged (not_doomed (by rw [next]; nofun)) (.uncalled nofun)

/-- A step that fails leaves the machine as it was, but for SP and memory if a doomed call has
pushed. No call of the console has succeeded, and none is counted where they are. A run that fails
leaves what its last step leaves, after the steps before it. -/
theorem failure_changes_nothing (m : Machine κ) :
    (∀ f m', m.step = (.error f, m') → Aftermath m f m') ∧
    (∀ a b : Machine (Counted κ), ∀ f, a.step = (.error f, b) →
      b.console.succeeded = a.console.succeeded) ∧
    ∀ limit f m', m.run limit = (.error f, m') →
      ∃ n a, m.after? n = some a ∧ a.step = (.error f, m') ∧ Aftermath a f m' := by
  refine ⟨fun f m' failed => ?_, fun a b f failed => ?_, fun limit f m' failed => ?_⟩
  · exact (step_iff.mp failed).aftermath
  · exact (step_iff.mp failed).aftermath.console.succeeded_eq
  · obtain ⟨n, a, reached, -, step⟩ := (run_iff.mp failed).failed
    exact ⟨n, a, reached, step.step_eq, step.aftermath⟩

/-- A call from address 0 to address -125. -/
theorem failure_changes_nothing_call_below :
    ∃ m m' : Machine Buffer, m.Doomed ∧ m.step = (.error (.memory (.outOfBounds 3)), m') ∧
      m'.ip = m.ip ∧ m'.registers.word .sp = 2 ∧
        m'.memory.read16 0xFFFE = .ok (returnOffset 3) := by
  obtain ⟨m, eq⟩ : ∃ m : Machine Buffer, m = { start (Buffer.ofInput []) with
      ip := 0, memory := ⟨Memory.place Memory.empty.cells 0 [0xE8, 0x80]⟩ } := ⟨_, rfl⟩
  have ip : m.ip = 0 := by rw [eq]
  have sp : m.registers.word .sp = 0 := by
    rw [eq]
    decide
  have call : m.instruction = .ok (.call (-128)) := by
    have bytes (i : Nat) (inside : i < memorySize) :
        m.memory.cells[i]? = some ([0xE8, 0x80][i]?.getD 0) := by
      rw [eq, Vector.getElem?_eq_getElem inside, Memory.getElem_place]
      simp [Memory.empty]
    have operand : m.memory.read8 (0 + 1) = .ok 0x80 :=
      Memory.read8_eq_ok_iff_getElem?.mpr (bytes 1 (by decide))
    rw [instruction, ip]
    refine Instruction.fetch_eq_ok_iff.mpr ⟨.call, ?_, ?_⟩
    · exact Memory.read8_eq_ok_iff_getElem?.mpr (bytes 0 (by decide))
    · rw [Instruction.read, operand]
      rfl
  have doomed : m.Doomed := ⟨_, call, by rw [sp]; decide, by rw [ip]; decide⟩
  obtain ⟨m', failed⟩ : ∃ m', m.step = (.error (.memory (.outOfBounds 3)), m') := by
    have room : m.pushed? = some 2 := pushed?_eq_some_iff.mpr (by rw [sp]; decide)
    obtain ⟨memory, written⟩ := write16_slot_ok room m.memory (returnOffset 3)
    have push := push_ok_iff.mpr ⟨2, memory, room, written, rfl⟩
    have target : Instruction.target 3 (-128) = .error (.memory (.outOfBounds 3)) :=
      Instruction.target_eq_error_iff.mpr (by decide)
    have next : (Instruction.call (-128)).next m.ip = 3 := by
      rw [ip]
      rfl
    rw [← next] at push target
    exact ⟨_, next ▸ (Step.callBelow call push target).step_eq⟩
  have after := (failure_changes_nothing m).1 _ _ failed
  obtain ⟨grown, -, saved⟩ := after.pushed doomed
  rw [sp] at grown
  have there : m'.registers.word .sp = 2 := UInt16.toNat_inj.mp grown
  rw [there, ip] at saved
  exact ⟨m, m', doomed, failed, after.ip, there, saved⟩

end Micro86.Machine
