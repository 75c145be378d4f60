import Mathlib.Data.Finset.Card
import Mathlib.Data.Finset.Dedup
import Micro86.Proofs.Coupling
import Micro86.Proofs.Faults

/-!
# Going on after a console has failed

A call of the console that fails loses nothing and repeats nothing: calling `run` again until the
console does not fail gives what a single run on a buffer gives, `failures_leave_no_trace`. How
often a call may fail is counted by the turns that are still to come.
-/

namespace Micro86

/-- A buffer whose calls fail at the given turns, reads and writes counted together from 1; a call
that fails does nothing. -/
structure Interrupted where
  buffer : Buffer
  failing : Finset Nat
  calls : Nat := 0

namespace Interrupted

def readByte (c : Interrupted) : Except String (Option UInt8) × Interrupted :=
  let c := { c with calls := c.calls + 1 }
  if c.calls ∈ c.failing then (.error "read failed", c)
  else
    let (byte, buffer) := c.buffer.readByte
    (.ok byte, { c with buffer })

def writeBytes (c : Interrupted) (bytes : List UInt8) : Except String Unit × Interrupted :=
  let c := { c with calls := c.calls + 1 }
  if c.calls ∈ c.failing then (.error "write failed", c)
  else (.ok (), { c with buffer := c.buffer.write bytes })

instance : Console Interrupted where
  readByte := readByte
  writeBytes := writeBytes

end Interrupted

/-- How many of the turns come after the `n`th. -/
def pending (turns : Finset Nat) (n : Nat) : Nat :=
  (turns.filter (n < ·)).card

theorem pending_le (turns : Finset Nat) (n : Nat) : pending turns n ≤ turns.card :=
  Finset.card_filter_le _ _

theorem later_subset (turns : Finset Nat) (n : Nat) :
    turns.filter (n + 1 < ·) ⊆ turns.filter (n < ·) := by
  intro turn later
  rw [Finset.mem_filter] at later ⊢
  exact ⟨later.1, Nat.lt_of_succ_lt later.2⟩

theorem pending_succ_le (turns : Finset Nat) (n : Nat) : pending turns (n + 1) ≤ pending turns n :=
  Finset.card_le_card (later_subset turns n)

theorem pending_succ_lt {turns : Finset Nat} {n : Nat} (h : n + 1 ∈ turns) :
    pending turns (n + 1) < pending turns n := by
  apply Finset.card_lt_card
  rw [Finset.ssubset_iff_of_subset (later_subset turns n)]
  refine ⟨n + 1, Finset.mem_filter.mpr ⟨h, Nat.lt_succ_self n⟩, fun later => ?_⟩
  exact Nat.lt_irrefl _ (Finset.mem_filter.mp later).2

/-- A console that does what its buffer does, unless a call fails and the buffer stays as it was. -/
structure Flaky (κ : Type) [Console κ] where
  buffer : κ → Buffer
  /-- How many calls can still fail. -/
  failures : κ → Nat
  read (c : κ) :
    (∃ text d, Console.readByte c = (.error text, d) ∧ buffer d = buffer c ∧
      failures d < failures c) ∨
    ∃ d, Console.readByte c = (.ok (buffer c).readByte.1, d) ∧ buffer d = (buffer c).readByte.2 ∧
      failures d ≤ failures c
  write (c : κ) (bytes : List UInt8) :
    (∃ text d, Console.writeBytes c bytes = (.error text, d) ∧ buffer d = buffer c ∧
      failures d < failures c) ∨
    ∃ d, Console.writeBytes c bytes = (.ok (), d) ∧ buffer d = (buffer c).write bytes ∧
      failures d ≤ failures c

namespace Flaky

def interrupted : Flaky Interrupted where
  buffer := Interrupted.buffer
  failures c := pending c.failing c.calls
  read c := by
    by_cases fails : c.calls + 1 ∈ c.failing
    · exact .inl ⟨_, _, if_pos fails, rfl, pending_succ_lt fails⟩
    · exact .inr ⟨_, if_neg fails, rfl, pending_succ_le _ _⟩
  write c bytes := by
    by_cases fails : c.calls + 1 ∈ c.failing
    · exact .inl ⟨_, _, if_pos fails, rfl, pending_succ_lt fails⟩
    · exact .inr ⟨_, if_neg fails, rfl, pending_succ_le _ _⟩

def unreliable : Flaky Unreliable where
  buffer := Unreliable.buffer
  failures c := pending c.failingReads.toFinset c.reads + pending c.failingWrites.toFinset c.writes
  read c := by
    by_cases fails : c.reads + 1 ∈ c.failingReads
    · refine .inl ⟨_, _, if_pos fails, rfl, ?_⟩
      exact Nat.add_lt_add_right (pending_succ_lt (List.mem_toFinset.mpr fails)) _
    · exact .inr ⟨_, if_neg fails, rfl, Nat.add_le_add_right (pending_succ_le _ _) _⟩
  write c bytes := by
    by_cases fails : c.writes + 1 ∈ c.failingWrites
    · refine .inl ⟨_, _, if_pos fails, rfl, ?_⟩
      exact Nat.add_lt_add_left (pending_succ_lt (List.mem_toFinset.mpr fails)) _
    · exact .inr ⟨_, if_neg fails, rfl, Nat.add_le_add_left (pending_succ_le _ _) _⟩

variable {κ : Type} [Console κ]

def coupling (F : Flaky κ) : Coupling κ where
  Chars := Eq
  Consoles b c := F.buffer c = b
  failures := F.failures
  chars_self _ := rfl
  read {b c d byte} h answer := by
    subst h
    rcases F.read c with ⟨text, e, fails, -⟩ | ⟨e, reads, buffer, le⟩
    · cases fails.symm.trans answer
    · cases reads.symm.trans answer
      exact ⟨rfl, buffer, le⟩
  unread {b c d text} h answer := by
    subst h
    rcases F.read c with ⟨text, e, fails, buffer, lt⟩ | ⟨e, reads, -⟩
    · cases fails.symm.trans answer
      exact ⟨buffer, lt⟩
    · cases reads.symm.trans answer
  wrote {b c d bytes} h answer := by
    subst h
    rcases F.write c bytes with ⟨text, e, fails, -⟩ | ⟨e, writes, buffer, le⟩
    · cases fails.symm.trans answer
    · cases writes.symm.trans answer
      exact ⟨buffer, le⟩
  unwritten {b c d bytes text} h answer := by
    subst h
    rcases F.write c bytes with ⟨text, e, fails, buffer, lt⟩ | ⟨e, writes, -⟩
    · cases fails.symm.trans answer
      exact ⟨buffer, lt⟩
    · cases writes.symm.trans answer

theorem exact (F : Flaky κ) : F.coupling.Exact :=
  fun _ _ same => same

theorem machines_eq {F : Flaky κ} {s : Machine Buffer} {t : Machine κ}
    (h : F.coupling.Machines s t) : { t with console := F.buffer t.console } = s := by
  rw [show F.buffer t.console = s.console from h.console]
  exact F.exact.machines_eq h

end Flaky

namespace Machine

theorem Runs.buffer {m m' : Machine Buffer} {limit : UInt64} {text : String}
    (h : Runs limit m (.error (.console text)) m') : False := by
  generalize failed : (Except.error (.console text) : Except Fault Outcome) = r at h
  induction h with
  | stop => cases failed
  | next _ _ _ ih => exact ih failed
  | fail goes step =>
    cases failed
    obtain ⟨number, v, next, selects, serves⟩ := step.console
    cases serves.buffer

variable {κ : Type} [Console κ]

/-- Running again each time the console has failed: how often it did, the last result and
the machine then. -/
inductive Persists (limit : UInt64) :
    Machine κ → Nat → Except Fault Outcome → Machine κ → Prop where
  | done {m m' : Machine κ} {r : Except Fault Outcome} (run : m.run limit = (r, m'))
      (final : ∀ text, r ≠ .error (.console text)) : Persists limit m 0 r m'
  | again {m m' m'' : Machine κ} {text : String} {n : Nat} {r : Except Fault Outcome}
      (run : m.run limit = (.error (.console text), m')) (rest : Persists limit m' n r m'') :
      Persists limit m (n + 1) r m''

/-- Every failure is one of those that were left. -/
theorem persists {C : Coupling κ} {s : Machine Buffer} {t : Machine κ} (h : C.Machines s t)
    (limit : UInt64) :
    ∃ k r m, Persists limit t k r m ∧ k ≤ C.failures t.console ∧ C.Results (s.run limit).1 r ∧
      C.Machines (s.run limit).2 m := by
  generalize left : C.failures t.console = n
  induction n using Nat.strongRecOn generalizing s t with
  | ind n ih =>
    obtain ⟨r, t', runs⟩ := exists_runs limit t
    rcases h.runs runs with ⟨q, s', runs', results, machines, -⟩ | ⟨s', same, interrupts⟩
    · rw [runs'.run_eq]
      refine ⟨0, r, t', .done runs.run_eq ?_, Nat.zero_le _, results, machines⟩
      rintro text rfl
      cases results
      exact runs'.buffer
    · obtain ⟨text, rfl⟩ := interrupts.console
      have fewer := interrupts.fewer
      obtain ⟨k, r, m, rest, le, results, machines⟩ := ih _ (by omega) interrupts.machines rfl
      rw [same]
      exact ⟨k + 1, r, m, .again runs.run_eq rest, by omega, results, machines⟩

/-- Going on each time the console has failed gives what a buffer gives, and it fails at most `most`
times. -/
def Recovers (buffer : κ → Buffer) (limit : UInt64) (most : Nat) (s : Machine Buffer)
    (t : Machine κ) :
    Prop :=
  ∃ k m, Persists limit t k (s.run limit).1 m ∧ k ≤ most ∧
    { m with console := buffer m.console } = (s.run limit).2

theorem recovers (F : Flaky κ) (name : String) (image : List UInt8) (limit : UInt64) (c : κ) :
    Recovers F.buffer limit (F.failures c) (loaded name image (F.buffer c))
      (loaded name image c) := by
  have start : F.coupling.Machines (loaded name image (F.buffer c)) (loaded name image c) :=
    Coupling.machines_loaded name image rfl
  obtain ⟨k, r, m, tries, le, results, machines⟩ := persists start limit
  cases F.exact.results_eq results
  exact ⟨k, m, tries, le, Flaky.machines_eq machines⟩

theorem Recovers.mono {buffer : κ → Buffer} {limit : UInt64} {i j : Nat} {s : Machine Buffer}
    {t : Machine κ} (h : Recovers buffer limit i s t) (le : i ≤ j) :
    Recovers buffer limit j s t := by
  obtain ⟨k, m, tries, few, same⟩ := h
  exact ⟨k, m, tries, Nat.le_trans few le, same⟩

/-- A console may fail at any turns, whether these count all calls or the reads and the writes by
themselves: running again after each failure ends with the result and the machine of a single run on
a console that never fails, and there are no more failures than turns. -/
theorem failures_leave_no_trace (name : String) {image : List UInt8} (input : List UInt8)
    (limit : UInt64) (fits : image.length ≤ maxImageSize) :
    ∃ s, load name image (Buffer.ofInput input) = .ok s ∧
      (∀ failing : Finset Nat, ∃ t,
        load name image { buffer := Buffer.ofInput input, failing : Interrupted } = .ok t ∧
        Recovers Interrupted.buffer limit failing.card s t) ∧
      ∀ failingReads failingWrites : List Nat, ∃ t,
        load name image
          { buffer := Buffer.ofInput input, failingReads, failingWrites : Unreliable } = .ok t ∧
        Recovers Unreliable.buffer limit (failingReads.toFinset.card + failingWrites.toFinset.card)
          s t := by
  refine ⟨_, load_eq name _ fits, fun failing => ?_, fun failingReads failingWrites => ?_⟩
  · refine ⟨_, load_eq name _ fits, ?_⟩
    exact (recovers Flaky.interrupted name image limit _).mono (pending_le _ _)
  · refine ⟨_, load_eq name _ fits, ?_⟩
    exact (recovers Flaky.unreliable name image limit _).mono
      (Nat.add_le_add (pending_le _ _) (pending_le _ _))

/-- A program that reads a character and exits with it, where the first call fails. -/
theorem failures_leave_no_trace_read_exit :
    ∃ s t, load "a.com" [0xB4, 1, 0xCD, 0x21, 0xB4, 0x4C, 0xCD, 0x21] (Buffer.ofInput [7]) = .ok s ∧
      load "a.com" [0xB4, 1, 0xCD, 0x21, 0xB4, 0x4C, 0xCD, 0x21]
        { buffer := Buffer.ofInput [7], failing := {1} : Interrupted } = .ok t ∧
      Recovers Interrupted.buffer 10 1 s t := by
  obtain ⟨s, plain, alone, -⟩ := failures_leave_no_trace "a.com"
    [7] 10 (show [0xB4, 1, 0xCD, 0x21, 0xB4, 0x4C, 0xCD, 0x21].length ≤ maxImageSize by decide)
  obtain ⟨t, failing, recovers⟩ := alone {1}
  exact ⟨s, t, plain, failing, recovers⟩

end Machine

end Micro86
