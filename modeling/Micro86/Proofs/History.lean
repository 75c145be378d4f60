import Micro86.Proofs.Step

/-!
# Steps in a row

`m.after? n` is the machine after `n` steps that all succeed, and `m.history n` the machines in
which they begin. `m.stepping n` makes `n` steps whatever they answer.
-/

namespace Micro86.Machine

variable {κ : Type} [Console κ]

/-- The machine after `n` steps, if they all succeed. -/
def after? (m : Machine κ) : Nat → Option (Machine κ)
  | 0 => some m
  | n + 1 =>
    match m.after? n with
    | none => none
    | some a =>
      match a.step with
      | (.error _, _) => none
      | (.ok (), b) => some b

/-- The machines in which the first `n` steps begin, in this order. -/
def history (m : Machine κ) (n : Nat) : List (Machine κ) :=
  (List.range n).filterMap m.after?

/-- What each of `n` steps answers, and the machine they leave. -/
def stepping (m : Machine κ) : Nat → List (Except Fault Unit) × Machine κ
  | 0 => ([], m)
  | n + 1 =>
    let (answers, a) := m.stepping n
    let (r, b) := a.step
    (answers ++ [r], b)

theorem after?_succ_iff {m b : Machine κ} {n : Nat} :
    m.after? (n + 1) = some b ↔ ∃ a, m.after? n = some a ∧ Step a (.ok ()) b := by
  cases reached : m.after? n with
  | none => simp [after?, reached]
  | some a =>
    obtain ⟨r, c, step⟩ := exists_step a
    have computed := step.step_eq
    cases r with
    | error f => simp [after?, reached, ← step_iff, computed]
    | ok => simp [after?, reached, ← step_iff, computed]

/-- What was reached in `n` steps was reached by way of each earlier machine. -/
theorem after?_of_lt {m b : Machine κ} {k n : Nat} (h : m.after? n = some b) (lt : k < n) :
    ∃ a c, m.after? k = some a ∧ Step a (.ok ()) c ∧ m.after? (k + 1) = some c := by
  induction n generalizing b with
  | zero => exact absurd lt (Nat.not_lt_zero k)
  | succ n ih =>
    obtain ⟨a, reached, step⟩ := after?_succ_iff.mp h
    rcases Nat.lt_succ_iff_lt_or_eq.mp lt with before | rfl
    · exact ih reached before
    · exact ⟨a, b, reached, step, h⟩

theorem history_succ {m a : Machine κ} {n : Nat} (h : m.after? n = some a) :
    m.history (n + 1) = m.history n ++ [a] := by
  simp [history, List.range_succ, h]

theorem mem_history_iff {m a : Machine κ} {n : Nat} :
    a ∈ m.history n ↔ ∃ k, k < n ∧ m.after? k = some a := by
  simp [history]

theorem stepping_succ {m a b : Machine κ} {answers : List (Except Fault Unit)}
    {r : Except Fault Unit}
    {n : Nat} (h : m.stepping n = (answers, a)) (step : Step a r b) :
    m.stepping (n + 1) = (answers ++ [r], b) := by
  simp only [stepping, h, step.step_eq]

end Micro86.Machine
