import Micro86.Proofs.History
import Micro86.Proofs.Run

/-!
# Sessions

A session drives a machine by requests for a step or a run, and goes on after one that failed.
`session_path`: whatever is requested, a session is a row of steps, so what every step keeps holds
in every session, `Path.throughout`.
-/

namespace Micro86.Machine

variable {κ : Type} [Console κ]

inductive Request where
  | step
  | run (limit : UInt64)
  deriving DecidableEq, Repr

/-- The machine that a request leaves, whatever it answers. -/
def perform (m : Machine κ) : Request → Machine κ
  | .step => m.step.2
  | .run limit => (m.run limit).2

def session (m : Machine κ) (requests : List Request) : Machine κ :=
  requests.foldl perform m

/-- The machines in which the steps of `runFor` begin. -/
def runOrigins : Nat → Machine κ → List (Machine κ)
  | 0, _ => []
  | budget + 1, m =>
    match m.outcome? (budget + 1) with
    | some _ => []
    | none =>
      match m.step with
      | (.error _, _) => [m]
      | (.ok (), next) => m :: runOrigins budget next

/-- The machines in which the steps of a request begin. -/
def origins (m : Machine κ) : Request → List (Machine κ)
  | .step => [m]
  | .run limit => runOrigins (m.budget limit) m

/-- The machines in which the steps of a session begin, in this order. -/
def past (m : Machine κ) : List Request → List (Machine κ)
  | [] => []
  | q :: requests => m.origins q ++ (m.perform q).past requests

/-- Steps in a row from each of the machines in a list, which may fail. -/
inductive Path : Machine κ → List (Machine κ) → Machine κ → Prop where
  | nil {m : Machine κ} : Path m [] m
  | cons {m m' m'' : Machine κ} {r : Except Fault Unit} {later : List (Machine κ)}
      (step : Step m r m') (rest : Path m' later m'') : Path m (m :: later) m''

theorem Path.append {a b c : Machine κ} {p q : List (Machine κ)} (left : Path a p b)
    (right : Path b q c) : Path a (p ++ q) c := by
  induction left with
  | nil => exact right
  | cons step _ ih => exact .cons step (ih right)

theorem Path.head_mem {a b : Machine κ} {p : List (Machine κ)} (path : Path a p b) :
    a ∈ p ++ [b] := by
  cases path with
  | nil => exact List.mem_cons_self
  | cons => exact List.mem_cons_self

/-- What every step keeps, whatever it answers, holds all the way. -/
theorem Path.throughout {P : Machine κ → Prop} {s m : Machine κ} {past : List (Machine κ)}
    (path : Path s past m) (keeps : ∀ {a b r}, Step a r b → P a → P b) (start : P s) :
    ∀ a ∈ past ++ [m], P a := by
  induction path with
  | nil =>
    intro a mem
    rwa [List.mem_singleton.mp mem]
  | cons step _ ih =>
    intro a mem
    rcases List.mem_cons.mp mem with rfl | later
    · exact start
    · exact ih (keeps step start) a later

theorem Path.invariant {P : Machine κ → Prop} {s m : Machine κ} {past : List (Machine κ)}
    (path : Path s past m) (keeps : ∀ {a b r}, Step a r b → P a → P b) (start : P s) : P m :=
  path.throughout keeps start m (List.mem_append_right _ List.mem_cons_self)

theorem Runs.path {m m' : Machine κ} {limit : UInt64} {r : Except Fault Outcome}
    (runs : Runs limit m r m') : Path m (runOrigins (m.budget limit) m) m' := by
  induction runs with
  | @stop m o stops =>
    rw [← outcome?_budget] at stops
    have none : runOrigins (m.budget limit) m = [] := by
      cases budget : m.budget limit with
      | zero => rfl
      | succ n => rw [runOrigins, ← budget, stops]
    rw [none]
    exact .nil
  | @fail m m' f goes step =>
    obtain ⟨n, budget⟩ := Nat.exists_eq_add_of_lt (budget_pos goes)
    rw [← outcome?_budget] at goes
    rw [budget] at goes ⊢
    rw [runOrigins, goes, step.step_eq]
    exact .cons step .nil
  | @next m m' m'' r goes step _ ih =>
    have budget := budget_step goes step
    rw [← outcome?_budget, budget] at goes
    rw [budget, runOrigins, goes, step.step_eq]
    exact .cons step ih

theorem perform_path (m : Machine κ) (q : Request) : Path m (m.origins q) (m.perform q) := by
  cases q with
  | step =>
    obtain ⟨r, m', step⟩ := exists_step m
    rw [perform, step.step_eq]
    exact .cons step .nil
  | run limit =>
    obtain ⟨r, m', runs⟩ := exists_runs limit m
    rw [perform, runs.run_eq]
    exact runs.path

/-- A session is made of the steps that are made on request. -/
theorem session_path (m : Machine κ) (requests : List Request) :
    Path m (m.past requests) (m.session requests) := by
  induction requests generalizing m with
  | nil => exact .nil
  | cons q requests ih => exact (perform_path m q).append (ih _)

theorem after?_path {s m : Machine κ} {n : Nat} (h : s.after? n = some m) :
    Path s (s.history n) m := by
  induction n generalizing m with
  | zero =>
    cases h
    exact .nil
  | succ n ih =>
    obtain ⟨a, reached, step⟩ := after?_succ_iff.mp h
    rw [history_succ reached]
    exact (ih reached).append (.cons step .nil)

theorem after?_of_step {a b : Machine κ} (step : Step a (.ok ()) b) (n : Nat) :
    a.after? (n + 1) = b.after? n := by
  induction n with
  | zero => exact after?_succ_iff.mpr ⟨a, rfl, step⟩
  | succ n ih => rw [after?, ih, after?]

/-- A run that fails has made steps that succeeded, and failed in the next one. -/
theorem Runs.failed {m m' : Machine κ} {limit : UInt64} {f : Fault}
    (runs : Runs limit m (.error f) m') :
    ∃ n a, m.after? n = some a ∧ a.stop? limit = none ∧ Step a (.error f) m' := by
  generalize failed : (Except.error f : Except Fault Outcome) = r at runs
  induction runs with
  | stop => cases failed
  | fail goes step =>
    cases failed
    exact ⟨0, _, rfl, goes, step⟩
  | next goes step _ ih =>
    obtain ⟨n, a, reached, ends⟩ := ih failed
    exact ⟨n + 1, a, (after?_of_step step n).trans reached, ends⟩

end Micro86.Machine
