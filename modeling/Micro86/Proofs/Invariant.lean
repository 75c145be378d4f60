import Micro86.Proofs.Aftermath
import Micro86.Proofs.Loading

/-!
# What holds in every session

`Sound` is kept by every step, also by one that fails. Of the registers that a step may change,
`Confined` says by which instruction.
-/

namespace Micro86.Machine

variable {κ : Type}

/-- The words that no instruction writes to. -/
def idle : List Reg16 := [.bx, .cx, .si, .di, .bp, .cs, .ds, .es, .ss, .flags]

/-- What no request can break. IP is 16 bits wide, so it shows the address only up to a multiple of
the size of memory. -/
structure Sound (m : Machine κ) : Prop where
  ip : (m.registers.word .ip).toNat = m.ip.toNat % memorySize
  sp : (m.registers.word .sp).toNat % 2 = 0
  idle : ∀ r ∈ idle, m.registers.word r = 0
  near : m.ip.toNat ≤ 0x10080

theorem sound_loaded (name : String) (image : List UInt8) (console : κ) :
    Sound (loaded name image console) where
  ip := by
    rw [registers_loaded, ip_loaded]
    decide
  sp := by
    rw [registers_loaded]
    decide
  idle := by
    rw [registers_loaded]
    decide
  near := by
    rw [ip_loaded]
    decide

theorem Changes.idle {m : Machine κ} {i : Instruction} {rs : Registers} (h : Changes m i rs)
    {r : Reg16} (mem : r ∈ idle) : r ≠ .ip ∧ rs.word r = m.registers.word r := by
  have apart : r ≠ .ip ∧ Reg8.ah.wide ≠ r ∧ Reg8.al.wide ≠ r ∧ Reg16.dx ≠ r ∧ Reg16.sp ≠ r := by
    revert r
    decide
  obtain ⟨ip, ah, al, dx, sp⟩ := apart
  refine ⟨ip, ?_⟩
  cases h with
  | nop | unanswered | jmp => rfl
  | movAh => exact m.registers.word_setByte_of_ne ah _
  | answered => exact m.registers.word_setByte_of_ne al _
  | movDx => exact m.registers.word_setWord_of_ne dx _
  | ret | call => exact m.registers.word_setWord_of_ne sp _

theorem Changes.sp_even {m : Machine κ} {i : Instruction} {rs : Registers} (h : Changes m i rs)
    (even : (m.registers.word .sp).toNat % 2 = 0) : (rs.word .sp).toNat % 2 = 0 := by
  have moves := h.sp
  cases i with
  | nop | movAh | movDx | int | call | ret | jmp =>
    simp only [Instruction.pushed, Instruction.popped] at moves
    omega

variable [Console κ]

theorem Sound.step {m m' : Machine κ} {r : Except Fault Unit} (sound : Sound m)
    (step : Step m r m') :
    Sound m' := by
  -- A step that fails keeps IP as it was, also a doomed call, which changes SP by 2.
  cases r with
  | ok =>
    obtain ⟨i, rs, -, changes, eq⟩ := step.changes
    constructor
    · rw [eq, Registers.word_setWord_self]
      rfl
    · rw [eq, Registers.word_setWord_of_ne _ (by decide)]
      exact changes.sp_even sound.sp
    · intro r mem
      obtain ⟨other, same⟩ := changes.idle mem
      rw [eq, Registers.word_setWord_of_ne _ other.symm, same]
      exact sound.idle r mem
    · exact step.ip_le
  | error f =>
    have after := step.aftermath
    constructor
    · rw [after.words .ip (by decide), after.ip]
      exact sound.ip
    · by_cases doomed : m.Doomed
      · rw [(after.pushed doomed).1, Nat.add_mod_right]
        exact sound.sp
      · rw [(after.whole doomed).1]
        exact sound.sp
    · intro r mem
      have other : r ≠ .sp := by
        revert r
        decide
      rw [after.words r other]
      exact sound.idle r mem
    · rw [after.ip]
      exact sound.near

theorem Sound.session {s : Machine κ} (sound : Sound s) (requests : List Request) :
    Sound (s.session requests) :=
  (session_path s requests).invariant (fun step sound => sound.step step) sound

/-- Whether the next step succeeds. -/
def completes (m : Machine κ) : Bool :=
  m.step.1.isOk

/-- Steps are counted when they succeed. -/
theorem Path.steps {s m : Machine κ} {past : List (Machine κ)} (path : Path s past m) :
    m.steps.toNat = (s.steps.toNat + past.countP completes) % UInt64.size := by
  induction path with
  | @nil m => exact (Nat.mod_eq_of_lt m.steps.toNat_lt_size).symm
  | @cons m m' m'' r later step _ ih =>
    cases r with
    | ok =>
      have counts : m.completes = true := by
        rw [completes, step.step_eq]
        rfl
      rw [ih, step_counts step, List.countP_cons_of_pos counts]
      simp only [UInt64.toNat_add, UInt64.reduceToNat, UInt64.size]
      omega
    | error f =>
      have fails : ¬ m.completes = true := by
        rw [completes, step.step_eq]
        nofun
      rw [ih, step.aftermath.steps, List.countP_cons_of_neg fails]

/-- Which instructions may change AH, DX, SP and AL. -/
structure Confined (m m' : Machine κ) : Prop where
  ah : m'.registers.byte .ah ≠ m.registers.byte .ah → ∃ value, m.instruction = .ok (.movAh value)
  dx : m'.registers.word .dx ≠ m.registers.word .dx → ∃ value, m.instruction = .ok (.movDx value)
  sp : m'.registers.word .sp ≠ m.registers.word .sp →
    (∃ displacement, m.instruction = .ok (.call displacement)) ∨ m.instruction = .ok .ret
  call : ∀ displacement, m.instruction = .ok (.call displacement) →
    (m'.registers.word .sp).toNat = (m.registers.word .sp).toNat + 2
  ret : m.instruction = .ok .ret →
    (m'.registers.word .sp).toNat + 2 = (m.registers.word .sp).toNat
  al : m'.registers.byte .al ≠ m.registers.byte .al → ∃ number s,
    m.instruction = .ok (.int number) ∧ m.service? number = some s ∧
      (s = .readChar ∨ s = .writeCharEcho ∨ s = .directConsole)

theorem Step.confined {m m' : Machine κ} (step : Step m (.ok ()) m') : Confined m m' := by
  obtain ⟨i, rs, next, changes, eq⟩ := step.changes
  have word {r : Reg16} (other : .ip ≠ r) : m'.registers.word r = rs.word r := by
    rw [eq, rs.word_setWord_of_ne other]
  have byte {b : Reg8} (other : b.wide ≠ .ip) : m'.registers.byte b = rs.byte b := by
    rw [eq, rs.byte_setWord_of_ne other]
  have sp := changes.sp
  rw [← word (by decide)] at sp
  constructor
  · intro changed
    rw [byte (by decide)] at changed
    cases i with
    | movAh value => exact ⟨value, next⟩
    | nop | movDx | ret | int | call | jmp => exact absurd (changes.ah nofun) changed
  · intro changed
    rw [word (by decide)] at changed
    cases i with
    | movDx value => exact ⟨value, next⟩
    | nop | movAh | ret | int | call | jmp => exact absurd (changes.dx nofun) changed
  · intro changed
    cases i with
    | call displacement => exact .inl ⟨displacement, next⟩
    | ret => exact .inr next
    | nop | movAh | movDx | int | jmp => exact absurd (UInt16.toNat_inj.mp sp) changed
  · intro displacement call
    cases next.symm.trans call
    exact sp
  · intro ret
    cases next.symm.trans ret
    exact sp
  · intro changed
    rw [byte (by decide)] at changed
    cases changes with
    | answered selects answers =>
      exact ⟨_, _, next, selects, Service.answers_iff.mp answers⟩
    | nop | unanswered | jmp => exact absurd rfl changed
    | movAh => exact absurd (m.registers.byte_setByte .ah .al _) changed
    | movDx | ret | call => exact absurd (m.registers.byte_setWord_of_ne (by decide) _) changed

/-- A program that starts with a call, wherever it leads. -/
theorem exists_step_loaded_call (name : String) (displacement : UInt8) (image : List UInt8)
    (console : κ) :
    ∃ m, Step (loaded name (0xE8 :: displacement :: image) console) (.ok ()) m := by
  refine exists_step_call (fetch_loaded_call name displacement image console) ?_ ?_
  · rw [registers_loaded]
    decide
  · have reach := displacement.toInt8.le_toInt
    have start : programStart.toNat = 0x100 := rfl
    rw [ip_loaded, start]
    omega

/-- In every session, whatever is requested, memory keeps its size, IP shows the address of the next
instruction, which is never far out of memory, SP is even, the words that no instruction uses are 0,
and the count of steps is the number of instructions that were completed. An instruction changes AH,
DX, SP and AL only where this is what it is for. -/
theorem sessions_stay_sound (name : String) {image : List UInt8} (console : κ)
    (fits : image.length ≤ maxImageSize) :
    ∃ s, load name image console = .ok s ∧
      (∀ requests, Sound (s.session requests) ∧
        (s.session requests).memory.cells.toList.length = memorySize ∧
        ((s.past requests).countP completes < UInt64.size →
          (s.session requests).steps.toNat = (s.past requests).countP completes)) ∧
      ∀ m m' : Machine κ, m.step = (.ok (), m') → Confined m m' := by
  refine ⟨_, load_eq name console fits, fun requests => ⟨?_, ?_, fun few => ?_⟩,
    fun m m' step => ?_⟩
  · exact (sound_loaded name image console).session requests
  · exact Vector.length_toList
  · have counted := (session_path (loaded name image console) requests).steps
    have start : (loaded name image console).steps.toNat = 0 := rfl
    rwa [start, Nat.zero_add, Nat.mod_eq_of_lt few] at counted
  · exact (step_iff.mp step).confined

theorem sessions_stay_sound_call :
    ∃ s m, load "a.com" [0xE8, 0, 0] (Buffer.ofInput []) = .ok s ∧ s.step = (.ok (), m) ∧
      Sound (s.session [.step]) ∧ (s.session [.step]).steps.toNat = 1 ∧
      (m.registers.word .sp).toNat = (s.registers.word .sp).toNat + 2 := by
  obtain ⟨s, load, holds, moves⟩ := sessions_stay_sound "a.com" (Buffer.ofInput [])
    (show [0xE8, 0, 0].length ≤ maxImageSize by decide)
  have eq := eq_loaded load
  obtain ⟨m, step⟩ : ∃ m, Step s (.ok ()) m := by
    rw [eq]
    exact exists_step_loaded_call _ _ _ _
  have once : (s.past [.step]).countP completes = 1 := by
    have succeeds : completes s = true := by
      rw [completes, step.step_eq]
      rfl
    exact List.countP_cons_of_pos succeeds
  obtain ⟨sound, -, counts⟩ := holds [.step]
  rw [once] at counts
  refine ⟨s, m, load, step.step_eq, sound, counts (by decide), ?_⟩
  apply (moves s m step.step_eq).call 0
  rw [eq]
  exact fetch_loaded_call _ _ _ _

end Micro86.Machine
