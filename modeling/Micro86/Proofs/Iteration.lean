import Micro86.Proofs.Aftermath
import Micro86.Proofs.Loading

/-!
# A run is made of single steps

`Ended` says when a run goes no further, and `Concludes` what it answers then. `run_iterates`: a run
makes the least number of steps after which it goes no further, and no more than its limit has left.
-/

namespace Micro86.Machine

variable {κ : Type} [Console κ]

/-- A run with this limit has no further step that succeeds. -/
def Ended (limit : UInt64) (m : Machine κ) : Prop :=
  (∃ code, m.status = .halted code) ∨ limit ≤ m.steps ∨ memorySize ≤ m.ip.toNat ∨
    ∃ f m', m.step = (.error f, m')

/-- What a run answers where it ends, and the machine it leaves. Of several reasons the
first one counts. -/
inductive Concludes (limit : UInt64) (m : Machine κ) : Except Fault Outcome → Machine κ → Prop where
  | halted {code : UInt8} (status : m.status = .halted code) :
    Concludes limit m (.ok (.halted code)) m
  | stepLimit (running : m.status = .running) (spent : limit ≤ m.steps) :
      Concludes limit m (.ok .stepLimit) m
  | endOfMemory (running : m.status = .running) (left : m.steps < limit)
      (outside : memorySize ≤ m.ip.toNat) : Concludes limit m (.ok .endOfMemory) m
  | fault {f : Fault} {m' : Machine κ} (running : m.status = .running) (left : m.steps < limit)
      (inside : m.ip.toNat < memorySize) (fails : m.step = (.error f, m')) :
      Concludes limit m (.error f) m'

theorem concludes_of_stop {m : Machine κ} {limit : UInt64} {o : Outcome}
    (stops : m.stop? limit = some o) :
    Concludes limit m (.ok o) m := by
  unfold stop? at stops
  cases status : m.status with
  | halted code =>
    rw [status] at stops
    cases stops
    exact .halted status
  | running =>
    rw [status] at stops
    by_cases spent : limit ≤ m.steps
    · simp only [spent, ↓reduceIte, Option.some.injEq] at stops
      subst stops
      exact .stepLimit status spent
    · by_cases outside : memorySize ≤ m.ip.toNat
      · simp only [spent, outside, ↓reduceIte, Option.some.injEq] at stops
        subst stops
        exact .endOfMemory status (UInt64.not_le.mp spent) outside
      · simp [spent, outside] at stops

namespace Concludes

variable {m m' : Machine κ} {limit : UInt64} {r : Except Fault Outcome}

theorem ended (h : Concludes limit m r m') : Ended limit m := by
  cases h with
  | halted status => exact .inl ⟨_, status⟩
  | stepLimit _ spent => exact .inr (.inl spent)
  | endOfMemory _ _ outside => exact .inr (.inr (.inl outside))
  | fault _ _ _ fails => exact .inr (.inr (.inr ⟨_, _, fails⟩))

/-- The instruction that fails is not counted. -/
theorem steps (h : Concludes limit m r m') : m'.steps = m.steps := by
  cases h with
  | halted | stepLimit | endOfMemory => rfl
  | fault _ _ _ fails => exact (step_iff.mp fails).aftermath.steps

theorem spent (h : Concludes limit m r m') (result : r = .ok .stepLimit) : limit ≤ m.steps := by
  cases h with
  | stepLimit _ spent => exact spent
  | halted | endOfMemory | fault => cases result

end Concludes

/-- Where a run goes on, it goes on by a step that succeeds. -/
theorem not_ended {m m' : Machine κ} {limit : UInt64} (goes : m.stop? limit = none)
    (step : Step m (.ok ()) m') : ¬ Ended limit m := by
  obtain ⟨running, left, inside⟩ := stop?_eq_none_iff.mp goes
  rintro (⟨code, status⟩ | spent | outside | ⟨f, b, fails⟩)
  · rw [running] at status
    cases status
  · exact UInt64.not_le.mpr left spent
  · exact Nat.not_le_of_lt inside outside
  · rw [step.step_eq] at fails
    cases fails

/-- The steps of a run, up to the machine in which it ends. -/
theorem Runs.iterates {m m' : Machine κ} {limit : UInt64} {r : Except Fault Outcome}
    (runs : Runs limit m r m') :
    ∃ k a, m.after? k = some a ∧ Concludes limit a r m' ∧
      (∀ j, j < k → ∃ b, m.after? j = some b ∧ b.stop? limit = none) ∧
      k ≤ m.budget limit ∧ a.steps.toNat = m.steps.toNat + k := by
  induction runs with
  | stop stops => exact ⟨0, _, rfl, concludes_of_stop stops, nofun, Nat.zero_le _, rfl⟩
  | fail goes step =>
    obtain ⟨running, left, inside⟩ := stop?_eq_none_iff.mp goes
    exact ⟨0, _, rfl, .fault running left inside step.step_eq, nofun, Nat.zero_le _, rfl⟩
  | @next m m' m'' r goes step _ ih =>
    obtain ⟨k, a, reached, concludes, before, few, count⟩ := ih
    have budget := budget_step goes step
    have counted := toNat_steps_of_step goes step
    refine ⟨k + 1, a, (after?_of_step step k).trans reached, concludes, ?_, by omega, by omega⟩
    intro j lt
    cases j with
    | zero => exact ⟨m, rfl, goes⟩
    | succ j =>
      rw [after?_of_step step]
      exact before j (Nat.lt_of_succ_lt_succ lt)

/-- A run ends, whatever the machine, the console and the limit: after the least number `k` of
steps that succeed and lead to where it has ended. It answers and leaves what this machine says,
or its next step if this one fails. It makes no more steps than the limit has left, and the
count of steps does not wrap. -/
theorem run_iterates (m : Machine κ) (limit : UInt64) :
    ∃ k a, m.after? k = some a ∧ Ended limit a ∧
      (∀ j b, m.after? j = some b → Ended limit b → k ≤ j) ∧
      Concludes limit a (m.run limit).1 (m.run limit).2 ∧
      k ≤ limit.toNat - m.steps.toNat ∧
      (m.run limit).2.steps.toNat = m.steps.toNat + k ∧
      (m.steps ≤ limit → (m.run limit).1 = .ok .stepLimit → (m.run limit).2.steps = limit) := by
  obtain ⟨r, m', runs⟩ := exists_runs limit m
  obtain ⟨k, a, reached, concludes, before, few, count⟩ := runs.iterates
  rw [runs.run_eq]
  rw [budget] at few
  have final := concludes.steps
  refine ⟨k, a, reached, concludes.ended, ?_, concludes, few, by rw [final, count], ?_⟩
  · intro j b there ended
    apply Nat.le_of_not_lt
    intro lt
    obtain ⟨b', c, there', step, -⟩ := after?_of_lt reached lt
    obtain ⟨b'', there'', goes⟩ := before j lt
    cases there.symm.trans there'
    cases there.symm.trans there''
    exact not_ended goes step ended
  · intro low result
    have spent := UInt64.le_iff_toNat_le.mp (concludes.spent result)
    have low := UInt64.le_iff_toNat_le.mp low
    rw [final]
    exact UInt64.toNat_inj.mp (by omega)

/-- A jump to itself, which has a thousand steps and no end. -/
theorem run_iterates_jump_to_itself :
    ∃ s, load "a.com" [0xEB, 0xFE] (Buffer.ofInput []) = .ok s ∧
      (s.run 1000).1 = .ok .stepLimit ∧ (s.run 1000).2.steps = 1000 := by
  obtain ⟨s, load, eq⟩ :
      ∃ s, load "a.com" [0xEB, 0xFE] (Buffer.ofInput []) = .ok s ∧ s = loaded _ _ _ :=
    ⟨_, load_eq _ _ (by decide), rfl⟩
  have jump {a : Machine Buffer} (same : a.memory = s.memory) (there : a.ip = programStart) :
      Step a (.ok ()) (a.arrive programStart) := by
    have next : a.instruction = .ok (.jmp (-2)) := by
      have code (i : Nat) (lt : i < 2) : s.memory.cells[0x100 + i]? = [0xEB, 0xFE][i]? := by
        rw [eq]
        exact image_loaded _ _ (by decide) lt
      rw [instruction, same, there, Instruction.fetch_jmp_iff]
      exact ⟨code 0 (by decide), 0xFE, code 1 (by decide), rfl⟩
    refine .jmp next ?_
    rw [there]
    rfl
  obtain ⟨k, a, reached, -, -, concludes, -, -, spends⟩ := run_iterates s 1000
  obtain ⟨same, there, running⟩ :
      a.memory = s.memory ∧ a.ip = programStart ∧ a.status = .running := by
    refine Path.invariant (P := fun a => a.memory = s.memory ∧ a.ip = programStart ∧
      a.status = .running)
      (after?_path reached) ?_ ?_
    · rintro a b r step ⟨same, there, running⟩
      cases step.step_eq.symm.trans (jump same there).step_eq
      exact ⟨same, rfl, running⟩
    · rw [eq]
      exact ⟨rfl, rfl, rfl⟩
  have result : (s.run 1000).1 = .ok .stepLimit := by
    generalize (s.run 1000).1 = r, (s.run 1000).2 = m at concludes
    cases concludes with
    | halted status =>
      rw [running] at status
      cases status
    | stepLimit => rfl
    | endOfMemory _ _ outside =>
      rw [there] at outside
      exact absurd outside (by decide)
    | fault _ _ _ fails => cases fails.symm.trans (jump same there).step_eq
  refine ⟨s, load, result, spends ?_ result⟩
  rw [eq]
  decide

end Micro86.Machine
