import Micro86.Machine.Run
import Micro86.Proofs.Loading
import Micro86.Proofs.Stack
import Micro86.Proofs.Step

/-!
# Runs

`Runs limit m r m'` says what a run does, one rule for each way to go on or to stop; `run_iff`: the
rules are what `run` computes. `run_extends`: a run may be cut in two at any limit.
-/

namespace Micro86.Machine

variable {κ : Type}

/-- Why a run with this limit executes nothing more, in the order in which the
reasons are looked at. -/
def stop? (m : Machine κ) (limit : UInt64) : Option Outcome :=
  match m.status with
  | .halted code => some (.halted code)
  | .running =>
    if limit ≤ m.steps then some .stepLimit
    else if memorySize ≤ m.ip.toNat then some .endOfMemory
    else none

theorem outcome?_budget (m : Machine κ) (limit : UInt64) :
    m.outcome? (m.budget limit) = m.stop? limit := by
  have spent : m.budget limit = 0 ↔ limit ≤ m.steps := by
    rw [UInt64.le_iff_toNat_le, budget]
    omega
  unfold outcome? stop?
  cases m.status with
  | halted => rfl
  | running =>
    simp only [spent]
    by_cases h : m.ip.toNat < memorySize
    · simp only [h, Nat.not_le_of_lt h, ↓reduceIte]
    · simp only [h, Nat.le_of_not_lt h, ↓reduceIte]

theorem stop?_eq_none_iff {m : Machine κ} {limit : UInt64} :
    m.stop? limit = none ↔ m.status = .running ∧ m.steps < limit ∧ m.ip.toNat < memorySize := by
  unfold stop?
  cases m.status with
  | halted => simp
  | running =>
    by_cases spent : limit ≤ m.steps
    · simp [spent, UInt64.not_lt.mpr spent]
    · simp [spent, UInt64.not_le.mp spent]

theorem stop?_eq_none_mono {m : Machine κ} {a b : UInt64} (le : a ≤ b) (goes : m.stop? a = none) :
    m.stop? b = none := by
  obtain ⟨running, lt, inside⟩ := stop?_eq_none_iff.mp goes
  exact stop?_eq_none_iff.mpr ⟨running, UInt64.lt_of_lt_of_le lt le, inside⟩

/-- Only the step limit can be lifted. -/
theorem stop?_eq_some_mono {m : Machine κ} {a b : UInt64} {o : Outcome} (le : a ≤ b)
    (stops : m.stop? a = some o) (final : o ≠ .stepLimit) : m.stop? b = some o := by
  unfold stop? at stops ⊢
  cases status : m.status with
  | halted => simpa only [status] using stops
  | running =>
    by_cases low : a ≤ m.steps
    · simp only [status, low, ↓reduceIte, Option.some.injEq] at stops
      exact absurd stops.symm final
    · have high : ¬ b ≤ m.steps := fun h => low (UInt64.le_trans le h)
      simpa only [status, low, high, ↓reduceIte] using stops

theorem budget_pos {m : Machine κ} {limit : UInt64} (goes : m.stop? limit = none) :
    0 < m.budget limit := by
  rw [← outcome?_budget] at goes
  apply Nat.pos_of_ne_zero
  intro spent
  rw [spent, outcome?] at goes
  cases status : m.status <;> simp [status] at goes

variable [Console κ]

theorem step_counts {m m' : Machine κ} (step : Step m (.ok ()) m') : m'.steps = m.steps + 1 := by
  cases step with
  | nop | movAh | movDx | ret | jmp => rfl
  | int next selects serves =>
    obtain ⟨-, -, steps, -⟩ := serves.frame
    exact congrArg (· + 1) steps
  | call next push =>
    obtain ⟨sp, memory, room, written, rfl⟩ := push_ok_iff.mp push
    rfl

/-- Before its limit a run is far from where the count would wrap. -/
theorem toNat_steps_of_step {m m' : Machine κ} {limit : UInt64} (goes : m.stop? limit = none)
    (step : Step m (.ok ()) m') : m'.steps.toNat = m.steps.toNat + 1 := by
  have room := budget_pos goes
  have := limit.toNat_lt
  rw [budget] at room
  rw [step_counts step]
  simp only [UInt64.toNat_add, UInt64.reduceToNat]
  omega

theorem budget_step {m m' : Machine κ} {limit : UInt64} (goes : m.stop? limit = none)
    (step : Step m (.ok ()) m') : m.budget limit = m'.budget limit + 1 := by
  have room := budget_pos goes
  rw [budget] at room
  rw [budget, budget, toNat_steps_of_step goes step]
  omega

inductive Runs (limit : UInt64) : Machine κ → Except Fault Outcome → Machine κ → Prop where
  | stop {m : Machine κ} {o : Outcome} (stops : m.stop? limit = some o) : Runs limit m (.ok o) m
  | fail {m m' : Machine κ} {f : Fault} (goes : m.stop? limit = none)
      (step : Step m (.error f) m') : Runs limit m (.error f) m'
  | next {m m' m'' : Machine κ} {r : Except Fault Outcome} (goes : m.stop? limit = none)
      (step : Step m (.ok ()) m') (rest : Runs limit m' r m'') : Runs limit m r m''

theorem Runs.run_eq {m m' : Machine κ} {r : Except Fault Outcome} {limit : UInt64}
    (h : Runs limit m r m') : m.run limit = (r, m') := by
  unfold run
  induction h with
  | @stop m o stops =>
    rw [← outcome?_budget] at stops
    cases budget : m.budget limit with
    | zero => rw [runFor, ← budget, stops, Option.getD_some]
    | succ n => rw [runFor, ← budget, stops]
  | @fail m m' f goes step =>
    obtain ⟨n, budget⟩ := Nat.exists_eq_add_of_lt (budget_pos goes)
    rw [← outcome?_budget] at goes
    rw [budget] at goes ⊢
    rw [runFor, goes, step.step_eq]
  | @next m m' m'' r goes step _ ih =>
    have budget := budget_step goes step
    rw [← outcome?_budget, budget] at goes
    rw [budget, runFor, goes, step.step_eq]
    exact ih

theorem exists_runs (limit : UInt64) (m : Machine κ) : ∃ r m', Runs limit m r m' := by
  generalize left : m.budget limit = n
  induction n using Nat.strongRecOn generalizing m with
  | ind n ih =>
    cases stops : m.stop? limit with
    | some o => exact ⟨_, _, .stop stops⟩
    | none =>
      obtain ⟨r, m', step⟩ := exists_step m
      cases r with
      | error f => exact ⟨_, _, .fail stops step⟩
      | ok =>
        have := budget_step stops step
        obtain ⟨r, m'', rest⟩ := ih _ (by omega) m' rfl
        exact ⟨_, _, .next stops step rest⟩

theorem run_iff {m m' : Machine κ} {r : Except Fault Outcome} {limit : UInt64} :
    m.run limit = (r, m') ↔ Runs limit m r m' := by
  constructor
  · intro h
    obtain ⟨r', m'', runs⟩ := exists_runs limit m
    rw [runs.run_eq, Prod.mk.injEq] at h
    obtain ⟨rfl, rfl⟩ := h
    exact runs
  · exact Runs.run_eq

/-- One round of the loop. -/
theorem run_next {m m' : Machine κ} {limit : UInt64} (goes : m.stop? limit = none)
    (step : Step m (.ok ()) m') : m.run limit = m'.run limit := by
  obtain ⟨r, m'', rest⟩ := exists_runs limit m'
  rw [rest.run_eq, (Runs.next goes step rest).run_eq]

theorem Runs.failure {m m' : Machine κ} {a b : UInt64} {f : Fault} (le : a ≤ b)
    (h : Runs a m (.error f) m') : Runs b m (.error f) m' := by
  generalize failed : Except.error f = r at h
  induction h with
  | stop => cases failed
  | fail goes step => exact .fail (stop?_eq_none_mono le goes) step
  | next goes step _ ih => exact .next (stop?_eq_none_mono le goes) step (ih failed)

theorem Runs.cut {m m' : Machine κ} {a b : UInt64} {o : Outcome} (le : a ≤ b)
    (h : Runs a m (.ok o) m') :
    m'.run b = m.run b ∧ (o ≠ .stepLimit → m.run b = (.ok o, m')) ∧ m'.run a = (.ok o, m') := by
  generalize ended : Except.ok o = r at h
  induction h with
  | @stop m o' stops =>
    cases ended
    exact ⟨rfl, fun final => (Runs.stop (stop?_eq_some_mono le stops final)).run_eq,
      (Runs.stop stops).run_eq⟩
  | fail => cases ended
  | next goes step _ ih =>
    rw [run_next (stop?_eq_none_mono le goes) step]
    exact ih ended

/-- A run may be cut in two. Going on with a larger limit from where a run stopped gives
what a single run gives; a run that halted, left memory or failed would have ended so under
the larger limit too. -/
theorem run_extends (m : Machine κ) {a b : UInt64} (le : a ≤ b) :
    (∀ o m', m.run a = (.ok o, m') →
      m'.run b = m.run b ∧
      ((∃ code, o = .halted code) ∨ o = .endOfMemory → m.run b = (.ok o, m')) ∧
      m'.run a = (.ok o, m')) ∧
    ∀ f m', m.run a = (.error f, m') → m.run b = (.error f, m') := by
  refine ⟨fun o m' run => ?_, fun f m' run => ?_⟩
  · obtain ⟨again, final, idle⟩ := (run_iff.mp run).cut le
    exact ⟨again, fun ending => final (by rcases ending with ⟨code, rfl⟩ | rfl <;> nofun), idle⟩
  · exact ((run_iff.mp run).failure le).run_eq

/-- Two instructions, one run each. -/
theorem run_extends_two_nops :
    ∃ s m, load "a.com" [0x5A, 0x5A] (Buffer.ofInput []) = .ok s ∧
      s.run 1 = (.ok .stepLimit, m) ∧ m.steps = 1 ∧ m.run 2 = s.run 2 := by
  obtain ⟨s, load, start⟩ :
      ∃ s, load "a.com" [0x5A, 0x5A] (Buffer.ofInput []) = .ok s ∧ s = loaded _ _ _ :=
    ⟨_, load_eq _ _ (by decide), rfl⟩
  have ip : s.ip = 0x100 := by rw [start]; rfl
  have steps : s.steps = 0 := by rw [start]; rfl
  have status : s.status = .running := by rw [start]; rfl
  have nop : s.instruction = .ok .nop := by
    rw [instruction, ip, start]
    exact Instruction.fetch_eq_ok_iff.mpr ⟨.nop, read8_loaded _ _ _ (by decide) (by decide), rfl⟩
  have goes : s.stop? 1 = none :=
    stop?_eq_none_iff.mpr ⟨status, by rw [steps]; decide, by rw [ip]; decide⟩
  have counted := step_counts (.nop nop)
  rw [steps] at counted
  have stops : (s.arrive (Instruction.nop.next s.ip)).stop? 1 = some .stepLimit := by
    have same : (s.arrive (Instruction.nop.next s.ip)).status = .running := status
    rw [stop?, same, counted]
    rfl
  have first := (Runs.next goes (.nop nop) (.stop stops)).run_eq
  exact ⟨s, _, load, first, counted, ((run_extends s (by decide : (1 : UInt64) ≤ 2)).1 _ _ first).1⟩

end Micro86.Machine
