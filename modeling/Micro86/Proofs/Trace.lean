import Micro86.Machine.Trace
import Micro86.Proofs.Session

/-!
# Traces

A trace looks at the machine after each step of its history, up to the step that fails or
halts the machine.
-/

namespace Micro86.Machine

variable {κ : Type} [Console κ]

/-- Why a trace ends at a machine from which it might make so many steps more, and the
machine it leaves. -/
inductive TraceEnd.Fits (a : Machine κ) : Nat → TraceEnd → Machine κ → Prop where
  | exhausted : Fits a 0 .exhausted a
  | halted {left : Nat} {code : UInt8} (status : a.status = .halted code) : Fits a left .halted a
  | fault {left : Nat} {f : Fault} {b : Machine κ} (step : Step a (.error f) b) :
      Fits a left (.fault f) b

theorem history_of_step {m m' : Machine κ} (step : Step m (.ok ()) m') (k : Nat) :
    m.history (k + 1) = m :: m'.history k := by
  have later : (List.range k).filterMap (m.after? ∘ Nat.succ) =
      (List.range k).filterMap m'.after? :=
    congrArg (List.filterMap · _) (funext fun j => after?_of_step step j)
  rw [history, List.range_succ_eq_map, List.filterMap_cons, List.filterMap_map, later]
  rfl

/-- A trace of at most `n` steps glimpses the history of the machine, and leaves it
where it ends. -/
theorem trace_follows (n : Nat) (m : Machine κ) :
    ∃ k a, k ≤ n ∧ m.after? k = some a ∧
      m.glimpse :: (trace n m).glimpses = (m.history (k + 1)).map glimpse ∧
      (∀ j b, m.after? (j + 1) = some b → j + 1 < k → b.status = .running) ∧
      TraceEnd.Fits a (n - k) (trace n m).finish (trace n m).machine := by
  induction n generalizing m with
  | zero => exact ⟨0, m, Nat.le_refl 0, rfl, rfl, nofun, .exhausted⟩
  | succ n ih =>
    obtain ⟨r, m', step⟩ := exists_step m
    rw [trace, step.step_eq]
    cases r with
    | error f => exact ⟨0, m, Nat.zero_le _, rfl, rfl, nofun, .fault step⟩
    | ok =>
      have first : m.after? 1 = some m' := after?_of_step step 0
      cases status : m'.status with
      | halted code =>
        simp only [status]
        refine ⟨1, m', Nat.succ_le_succ (Nat.zero_le n), first, ?_, ?_, .halted status⟩
        · rw [history_of_step step]
          rfl
        · omega
      | running =>
        obtain ⟨k, a, few, reached, glimpses, running, ends⟩ := ih m'
        simp only [status]
        refine ⟨k + 1, a, Nat.succ_le_succ few, (after?_of_step step k).trans reached, ?_, ?_, ?_⟩
        · rw [history_of_step step, List.map_cons, ← glimpses]
        · intro j b there lt
          rw [after?_of_step step] at there
          cases j with
          | zero =>
            cases there
            exact status
          | succ j => exact running j b there (Nat.lt_of_succ_lt_succ lt)
        · rw [Nat.succ_sub_succ]
          exact ends

end Micro86.Machine
