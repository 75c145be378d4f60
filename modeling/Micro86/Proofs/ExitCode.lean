import Micro86.Proofs.Iteration
import Micro86.Proofs.Traffic

/-!
# Where an exit code comes from

`Source` says where the value of AL comes from: it is a character that was read, or the low byte of
what was last loaded into DX, or 0 if nothing was returned in AL. `exit_code_has_source`: a program
that stops with a code has got it from there, and stops by its last instruction.
-/

namespace Micro86

theorem Registers.low_word_dx (rs : Registers) : (rs.word .dx).low = rs.byte .dl :=
  Word.low_ofBytes _ _

namespace Machine

variable {κ : Type}

/-- What is loaded into DX next. -/
def immediate? (m : Machine κ) : Option Word :=
  match m.instruction with
  | .ok (.movDx value) => some value
  | _ => none

/-- What was last loaded into DX, 0 if nothing was. -/
def lastLoaded (history : List (Machine κ)) : Word :=
  (history.filterMap immediate?).getLastD 0

/-- Where the value of AL after a history comes from. -/
inductive Source (input : List UInt8) : List (Machine κ) → UInt8 → Prop where
  | none {history : List (Machine κ)} (silent : ∀ a ∈ history, ¬ a.receives ∧ ¬ a.echoes) :
      Source input history 0
  | read {before after : List (Machine κ)} {a : Machine κ} (reads : a.receives)
      (silent : ∀ b ∈ after, ¬ b.receives ∧ ¬ b.echoes) :
      Source input (before ++ a :: after) (input[before.countP receives]?.getD 0xFF)
  | echo {before after : List (Machine κ)} {a : Machine κ} (writes : a.echoes)
      (silent : ∀ b ∈ after, ¬ b.receives ∧ ¬ b.echoes) :
      Source input (before ++ a :: after) (lastLoaded before).low

theorem Source.append {input : List UInt8} {history : List (Machine κ)} {al : UInt8} {a : Machine κ}
    (h : Source input history al) (silent : ¬ a.receives ∧ ¬ a.echoes) :
    Source input (history ++ [a]) al := by
  have grown {l : List (Machine κ)} (before : ∀ b ∈ l, ¬ b.receives ∧ ¬ b.echoes) :
      ∀ b ∈ l ++ [a], ¬ b.receives ∧ ¬ b.echoes :=
    List.forall_mem_append.mpr ⟨before, List.forall_mem_singleton.mpr silent⟩
  cases h with
  | none before => exact .none (grown before)
  | read reads before =>
    rw [List.append_assoc, List.cons_append]
    exact .read reads (grown before)
  | echo writes before =>
    rw [List.append_assoc, List.cons_append]
    exact .echo writes (grown before)

theorem lastLoaded_append (history : List (Machine κ)) (a : Machine κ) :
    lastLoaded (history ++ [a]) = a.immediate?.getD (lastLoaded history) := by
  rw [lastLoaded, List.filterMap_append]
  cases loaded : a.immediate? with
  | none => simp [loaded, lastLoaded]
  | some value => simp [loaded]

/-- Nothing but a load changes DX. -/
theorem Step.dx [Console κ] {a b : Machine κ} (step : Step a (.ok ()) b) :
    b.registers.word .dx = a.immediate?.getD (a.registers.word .dx) := by
  obtain ⟨i, rs, next, changes, registers⟩ := step.changes
  rw [registers, Registers.word_setWord_of_ne _ (by decide)]
  fun_cases immediate? a with
  | case1 value loads =>
    cases next.symm.trans loads
    cases changes
    exact Registers.word_setWord_self _ _ _
  | case2 other =>
    apply changes.dx
    intro value same
    rw [same] at next
    exact other value next

theorem dx_after [Console κ] {s m : Machine κ} {n : Nat} (zero : s.registers.word .dx = 0)
    (reached : s.after? n = some m) : m.registers.word .dx = lastLoaded (s.history n) := by
  induction n generalizing m with
  | zero =>
    cases reached
    exact zero
  | succ n ih =>
    obtain ⟨a, before, step⟩ := after?_succ_iff.mp reached
    rw [step.dx, ih before, history_succ before, lastLoaded_append]

/-- AL is changed by the services only that return a character. -/
theorem Step.al_of_silent {a b : Machine Buffer} (step : Step a (.ok ()) b)
    (silent : ¬ a.receives ∧ ¬ a.echoes) : b.registers.byte .al = a.registers.byte .al := by
  obtain ⟨deaf, mute⟩ := silent
  rw [receives_iff] at deaf
  rw [echoes_iff] at mute
  rw [step.handled.al]
  cases serving : a.serving? with
  | none => rfl
  | some s =>
    cases s with
    | readChar => exact absurd serving deaf
    | writeCharEcho => exact absurd (.inl serving) mute
    | directConsole => exact absurd (.inr serving) mute
    | terminate | writeChar | printString | exit => rfl

theorem Step.al_of_echoes {a b : Machine Buffer} (step : Step a (.ok ()) b) (writes : a.echoes) :
    b.registers.byte .al = a.registers.byte .dl := by
  rw [step.handled.al]
  rcases echoes_iff.mp writes with serving | serving
  · rw [serving]
    rfl
  · rw [serving]
    rfl

theorem source_after {s m : Machine Buffer} {n : Nat} (fresh : s.registers.byte .al = 0)
    (zero : s.registers.word .dx = 0) (reached : s.after? n = some m) :
    Source s.console.unread (s.history n) (m.registers.byte .al) := by
  induction n generalizing m with
  | zero =>
    cases reached
    rw [fresh]
    exact .none nofun
  | succ n ih =>
    obtain ⟨a, before, step⟩ := after?_succ_iff.mp reached
    rw [history_succ before]
    by_cases reads : a.receives
    · rw [received_al before step reads]
      exact .read reads nofun
    · by_cases writes : a.echoes
      · rw [step.al_of_echoes writes, ← Registers.low_word_dx, dx_after zero before]
        exact .echo writes nofun
      · rw [step.al_of_silent ⟨reads, writes⟩]
        exact (ih before).append ⟨reads, writes⟩

/-- What stops the program leaves it stopped. -/
theorem Step.halted_of_terminates {a b : Machine Buffer} (step : Step a (.ok ()) b)
    (terminates : a.terminates) : ∃ code, b.status = .halted code := by
  rw [step.handled.status]
  rcases terminates_iff.mp terminates with serving | serving
  · rw [serving]
    exact ⟨_, rfl⟩
  · rw [serving]
    exact ⟨_, rfl⟩

/-- How a step stops a program that was running. -/
theorem Step.stops {a b : Machine Buffer} {code : UInt8} (step : Step a (.ok ()) b)
    (running : a.status = .running) (halted : b.status = .halted code) :
    a.serving? = some .terminate ∧ code = 0 ∨
      a.serving? = some .exit ∧ code = a.registers.byte .al := by
  rw [step.handled.status, running] at halted
  cases serving : a.serving? with
  | none =>
    rw [serving] at halted
    cases halted
  | some s =>
    rw [serving] at halted
    cases s with
    | terminate =>
      cases halted
      exact .inl ⟨rfl, rfl⟩
    | exit =>
      cases halted
      exact .inr ⟨rfl, rfl⟩
    | readChar | writeCharEcho | writeChar | directConsole | printString => cases halted

/-- A run that halts does so by its last step. -/
theorem Runs.halts [Console κ] {s m : Machine κ} {limit : UInt64} {code : UInt8}
    (runs : Runs limit s (.ok (.halted code)) m) (running : s.status = .running) :
    ∃ n a, s.after? n = some a ∧ Step a (.ok ()) m ∧ m.status = .halted code ∧
      ∀ j b, j ≤ n → s.after? j = some b → b.status = .running := by
  obtain ⟨k, a, reached, concludes, goes, -, -⟩ := runs.iterates
  obtain ⟨halted, rfl⟩ : a.status = .halted code ∧ a = m := by
    cases concludes with
    | halted status => exact ⟨status, rfl⟩
  cases k with
  -- The program was running at first, so there is a last step.
  | zero =>
    cases reached
    rw [running] at halted
    cases halted
  | succ n =>
    obtain ⟨b, before, step⟩ := after?_succ_iff.mp reached
    refine ⟨n, b, before, step, halted, ?_⟩
    intro j c le there
    obtain ⟨c', there', goes⟩ := goes j (Nat.lt_succ_of_le le)
    cases there.symm.trans there'
    exact (stop?_eq_none_iff.mp goes).1

/-- If a run of a program halts, then its last instruction is the only one that stops the program:
it is `INT 20h`, or `INT 21h` with AH = 0, and the code is 0; or it is `INT 21h` with AH = 4Ch, and
the code is the value last returned in AL, with the source that `Source` tells. -/
theorem exit_code_has_source (name : String) {image : List UInt8} (input : List UInt8)
    (fits : image.length ≤ maxImageSize) :
    ∃ s, load name image (Buffer.ofInput input) = .ok s ∧
      ∀ limit code m, s.run limit = (.ok (.halted code), m) →
        ∃ n a, s.after? n = some a ∧ s.after? (n + 1) = some m ∧
          (∀ b ∈ s.history n, ¬ b.terminates) ∧
          (a.interrupt? = some 0x20 ∧ code = 0 ∨ a.selector? = some 0x00 ∧ code = 0 ∨
            a.selector? = some 0x4C ∧ Source input (s.history n) code) := by
  refine ⟨_, load_eq name _ fits, ?_⟩
  intro limit code m run
  obtain ⟨n, a, reached, step, halted, running⟩ := (run_iff.mp run).halts rfl
  refine ⟨n, a, reached, after?_succ_iff.mpr ⟨a, reached, step⟩, ?_, ?_⟩
  · intro b mem terminates
    obtain ⟨j, lt, there⟩ := mem_history_iff.mp mem
    obtain ⟨b', c, there', step', behind⟩ := after?_of_lt reached lt
    cases there.symm.trans there'
    obtain ⟨code', status⟩ := step'.halted_of_terminates terminates
    cases status.symm.trans (running (j + 1) c lt behind)
  · rcases step.stops (running n a (Nat.le_refl n) reached) halted with
        ⟨serving, rfl⟩ | ⟨serving, rfl⟩
    · rcases serving?_eq_some_iff.mp serving with ⟨int, -⟩ | ⟨ah, listed, selector⟩
      · exact .inl ⟨int, rfl⟩
      · rw [List.mem_singleton.mp listed] at selector
        exact .inr (.inl ⟨selector, rfl⟩)
    · rcases serving?_eq_some_iff.mp serving with ⟨-, same⟩ | ⟨ah, listed, selector⟩
      · cases same
      · rw [List.mem_singleton.mp listed] at selector
        exact .inr (.inr ⟨selector, source_after rfl rfl reached⟩)

/-- A run goes on over both instructions. -/
theorem CallsFor.run {m m' : Machine Buffer} {selector : UInt8} {s : Service} {limit : UInt64}
    (h : CallsFor m selector s m') (goes : m.stop? limit = none)
    (goes' : (m.selecting selector).stop? limit = none) : m.run limit = m'.run limit :=
  (run_next goes h.load).trans (run_next goes' h.step)

/-- A program that reads a character and exits with it, for which four instructions are enough. -/
theorem run_read_exit (name : String) (c : UInt8) {limit : UInt64} (enough : 3 < limit) :
    ∃ s m, load name [0xB4, 1, 0xCD, 0x21, 0xB4, 0x4C, 0xCD, 0x21] (Buffer.ofInput [c]) = .ok s ∧
      s.run limit = (.ok (.halted c), m) := by
  obtain ⟨s, a, m, start, eq, read, exit⟩ :=
    exists_callsFor_both name (Buffer.ofInput [c]) (x := 1) (y := 0x4C) (u := .readChar)
      (v := .exit) (by decide) (by decide)
  have ip : a.ip = 0x104 := by
    rw [read.ip, eq]
    rfl
  have steps : a.steps = 2 := by
    rw [read.steps, eq]
    rfl
  have running : a.status = .running := by
    rw [read.handled.status, eq]
    rfl
  have al : (a.selecting 0x4C).registers.byte .al = c := by
    rw [exit.load.al_of_silent (by simp [receives, echoes, exit.silent]), read.handled.al, eq]
    rfl
  have halted : m.status = .halted c := by
    rw [exit.handled.status, ← al]
    rfl
  -- Each of the four instructions is still allowed when it is reached.
  have allowed {k : UInt64} (few : k ≤ 3) : k < limit := UInt64.lt_of_le_of_lt few enough
  have reads : s.run limit = a.run limit := by
    apply read.run
    · rw [stop?_eq_none_iff, eq]
      exact ⟨rfl, allowed (k := 0) (by decide), show (0x100 : UInt64).toNat < memorySize by decide⟩
    · rw [stop?_eq_none_iff, eq]
      exact ⟨rfl, allowed (k := 1) (by decide), show (0x102 : UInt64).toNat < memorySize by decide⟩
  have exits : a.run limit = m.run limit := by
    apply exit.run
    · rw [stop?_eq_none_iff, running, steps, ip]
      exact ⟨rfl, allowed (by decide), by decide⟩
    · rw [stop?_eq_none_iff]
      show a.status = .running ∧ a.steps + 1 < limit ∧ (a.ip + 2).toNat < memorySize
      rw [running, steps, ip]
      exact ⟨rfl, allowed (by decide), by decide⟩
  refine ⟨s, m, start, ?_⟩
  rw [reads, exits]
  exact (Runs.stop (by rw [stop?, halted])).run_eq

/-- The code is the character that was read. -/
theorem exit_code_has_source_read_exit :
    ∃ s m, load "a.com" [0xB4, 1, 0xCD, 0x21, 0xB4, 0x4C, 0xCD, 0x21] (Buffer.ofInput [7]) = .ok s ∧
      s.run 10 = (.ok (.halted 7), m) ∧
      ∃ n a, s.after? n = some a ∧ s.after? (n + 1) = some m ∧ a.selector? = some 0x4C ∧
        Source [7] (s.history n) 7 := by
  obtain ⟨s, m, start, run⟩ := run_read_exit "a.com" 7 (show (3 : UInt64) < 10 by decide)
  obtain ⟨s', start', ends⟩ := exit_code_has_source "a.com" [7]
    (show [0xB4, 1, 0xCD, 0x21, 0xB4, 0x4C, 0xCD, 0x21].length ≤ maxImageSize by decide)
  cases start.symm.trans start'
  obtain ⟨n, b, reached, last, -, ⟨-, zero⟩ | ⟨-, zero⟩ | ⟨selector, source⟩⟩ := ends 10 7 m run
  · cases zero
  · cases zero
  · exact ⟨s, m, start, run, n, b, reached, last, selector, source⟩

end Machine

end Micro86
