import Micro86.Command
import Micro86.Proofs.CommandLine
import Micro86.Proofs.Coupling
import Micro86.Proofs.Loading

/-!
# Runs on the standard streams

The command runs a program on streams and puts log lines among what the program writes. Streams that
work do what a buffer does, however the input arrives: `sameInput`. A coupling that `Tolerates` the
log lines keeps the machine of the command beside one on a buffer: `Machines.logged` for a run,
`execute_coupled` for the whole command.
-/

namespace Micro86

namespace Coupling

open Command (note noteStep)

variable {C : Coupling Streams} {log : Log.Subscriber}

/-- Streams that work beside a buffer with their input, where `Outputs` relates what was written and
still does so when both are written to. -/
def sameInput (Outputs : Array UInt8 → Array UInt8 → Prop)
    (keeps : ∀ {a b : Array UInt8} (bytes : List UInt8), Outputs a b →
      Outputs (bytes.foldl Array.push a) (bytes.foldl Array.push b)) : Coupling Streams where
  Chars := Eq
  Consoles b s := s.Works ∧ s.input = b.unread ∧ Outputs b.output s.output
  failures _ := 0
  chars_self _ := rfl
  read {b s t byte} h answer := by
    obtain ⟨works, same, outputs⟩ := h
    obtain ⟨t', reads, input, output, works⟩ := works.readByte_eq
    cases reads.symm.trans answer
    rw [b.byte_readByte, b.unread_readByte, b.output_readByte, input, output, same]
    exact ⟨rfl, ⟨works, rfl, outputs⟩, Nat.le_refl _⟩
  unread h answer := by
    obtain ⟨t, reads, -⟩ := h.1.readByte_eq
    cases reads.symm.trans answer
  wrote {b s t bytes} h answer := by
    obtain ⟨works, same, outputs⟩ := h
    obtain ⟨t', writes, input, output, works⟩ := works.writeBytes_eq bytes
    cases writes.symm.trans answer
    rw [input, output]
    exact ⟨⟨works, same, keeps bytes outputs⟩, Nat.le_refl _⟩
  unwritten {b s t bytes text} h answer := by
    obtain ⟨t', writes, -⟩ := h.1.writeBytes_eq bytes
    cases writes.symm.trans answer

/-- What is logged stays within what the coupling lets differ. -/
structure Tolerates (C : Coupling Streams) (log : Log.Subscriber) : Prop where
  exact : C.Exact
  sure : ∀ s, C.failures s = 0
  note : ∀ records {b s}, C.Consoles b s → C.Consoles b (note log records s)

theorem Exact.outcome (exact : C.Exact) {s : Machine Buffer} {t : Machine Streams}
    (h : C.Machines s t) (budget : Nat) : t.outcome? budget = s.outcome? budget := by
  rw [← exact.machines_eq h]
  rfl

namespace Machines

variable {s : Machine Buffer} {t : Machine Streams}

theorem noteStep (h : C.Machines s t) (tolerates : C.Tolerates log) (limit : UInt64) :
    C.Machines s (noteStep log limit t) :=
  h.speak (tolerates.note _ h.console)

/-- A step that is logged first. -/
theorem stepLogged (h : C.Machines s t) (tolerates : C.Tolerates log) (limit : UInt64) :
    ∃ r s' t', s.step = (r, s') ∧ (Command.noteStep log limit t).step = (r, t') ∧
      C.Machines s' t' := by
  obtain ⟨r, t', step⟩ := Machine.exists_step (Command.noteStep log limit t)
  rcases (h.noteStep tolerates limit).step step with ⟨s', step', machines, -⟩ | interrupts
  · exact ⟨r, s', t', step'.step_eq, step.step_eq, machines⟩
  · exact absurd interrupts.fewer (by rw [tolerates.sure, tolerates.sure]; exact Nat.lt_irrefl 0)

/-- A run answers the same when it is logged. -/
theorem logged (h : C.Machines s t) (tolerates : C.Tolerates log) (limit : UInt64) (n : Nat) :
    ∃ r s' t', s.runFor n = (r, s') ∧ C.Machines s' t' ∧
      Command.runFor (fun m => (pure (Command.noteStep log limit m) : Id _)) n t = (r, t') := by
  -- Both runs go by the budget; that the machines are coupled is what each step keeps.
  induction n generalizing s t with
  | zero =>
    rw [Command.runFor, Machine.runFor, tolerates.exact.outcome h]
    exact ⟨_, s, t, rfl, h, rfl⟩
  | succ n ih =>
    rw [Command.runFor, Machine.runFor, tolerates.exact.outcome h]
    cases s.outcome? (n + 1) with
    | some outcome => exact ⟨_, s, t, rfl, h, rfl⟩
    | none =>
      obtain ⟨r, s', t', left, right, machines⟩ := h.stepLogged tolerates limit
      simp only [pure_bind, left, right]
      cases r with
      | error f => exact ⟨_, s', t', rfl, machines, rfl⟩
      | ok => exact ih machines

end Machines

end Coupling

namespace Command

variable {C : Coupling Streams} {log : Log.Subscriber} {streams : Streams}

/-- The one reading of a line that names a program. -/
theorem exists_line {kit : Toolkit} (reads : kit.Reads) {arguments : List String} {o : Options}
    (accepted : kit.parse arguments = .ok o) (runs : o.shell? = none) :
    ∃ items path, Says items arguments ∧ (∀ said, Says said arguments → said = items) ∧
      o.SaidBy items ∧ .input path ∈ items ∧ o.path? = some path := by
  obtain ⟨items, line, said⟩ := reads arguments o accepted
  obtain ⟨path, given⟩ := said.complete runs
  exact ⟨items, path, line, fun _ => line.unique, said, (said.path path).mpr given, given⟩

theorem respond_eq (read : String → Except String (List UInt8)) {kit : Toolkit}
    (around : Surroundings) {arguments : List String} (s : Streams) {o : Options} {path : String}
    (accepted : kit.parse arguments = .ok o) (runs : o.shell? = none)
    (given : o.path? = some path) :
    respond read kit around arguments s =
      (execute (kit.subscriber around o) path o.limit (read path) s).response kit o := by
  simp only [respond, respondWith, accepted, runs, given]
  rfl

/-- The machine of the command starts beside the one the program is loaded into. -/
theorem load_coupled (tolerates : C.Tolerates log) {b : Buffer} (start : C.Consoles b streams)
    (path : String) (limit : UInt64) {image : List UInt8} (fits : image.length ≤ maxImageSize) :
    ∃ s t, Machine.load (programName path) image b = .ok s ∧
      load log path limit (.ok image) streams = .ok t ∧ C.Machines s t := by
  have loads {κ : Type} (c : κ) := Machine.load_eq (programName path) c fits
  have read := tolerates.note [readingRecord path] start
  have built := tolerates.note [imageRecord path image.length, buildingRecord limit] read
  rw [load, loads, loads]
  refine ⟨_, _, rfl, rfl, ?_⟩
  exact (Coupling.machines_loaded (programName path) image built).speak (tolerates.note _ built)

theorem noteEnd_coupled (tolerates : C.Tolerates log) {s : Machine Buffer} {t : Machine Streams}
    (h : C.Machines s t) (limit : UInt64) (outcome : Outcome) :
    C.Machines s (noteEnd log limit outcome t) :=
  h.speak (tolerates.note _ h.console)

theorem execute_loaded {path : String} {limit : UInt64} {found : Except String (List UInt8)}
    {m : Machine Streams} (loads : load log path limit found streams = .ok m) :
    execute log path limit found streams =
      match runFor (fun m => (pure (noteStep log limit m) : Id _)) (m.budget limit) m with
      | (.error f, m) => .ran (.error f) m
      | (.ok outcome, m) => .ran (.ok outcome) (noteEnd log limit outcome m) := by
  rw [execute, executeWith, loads]
  dsimp only
  rcases runFor _ (m.budget limit) m with ⟨_ | _, _⟩ <;> rfl

/-- So the command ends as the run of that machine does. -/
theorem execute_coupled (tolerates : C.Tolerates log) {b : Buffer} (start : C.Consoles b streams)
    (path : String) (limit : UInt64) {image : List UInt8} (fits : image.length ≤ maxImageSize) :
    ∃ s t, Machine.load (programName path) image b = .ok s ∧
      execute log path limit (.ok image) streams = .ran (s.run limit).1 t ∧
      C.Machines (s.run limit).2 t := by
  obtain ⟨s, t, loaded, load, machines⟩ := load_coupled tolerates start path limit fits
  have budget : t.budget limit = s.budget limit := by
    rw [Machine.budget, Machine.budget, machines.steps]
  obtain ⟨r, s', t', run, finals, right⟩ := machines.logged tolerates limit (s.budget limit)
  have run : s.run limit = (r, s') := run
  rw [← budget] at right
  refine ⟨s, ?_⟩
  rw [run, execute_loaded load, right]
  cases r with
  | error => exact ⟨t', loaded, rfl, finals⟩
  | ok outcome => exact ⟨_, loaded, rfl, noteEnd_coupled tolerates finals limit outcome⟩

/-- If no program is loaded, nothing is done as before an instruction. -/
theorem executeWith_unloaded {μ : Type → Type} [Monad μ]
    (turn : Machine Streams → μ (Machine Streams)) {path : String} {limit : UInt64}
    {found : Except String (List UInt8)} {e : LoadError} {rest : Streams}
    (fails : load log path limit found streams = .error (e, rest)) :
    executeWith turn log path limit found streams = pure (.unloaded e rest) := by
  rw [executeWith, fails]

theorem load_unreadable (log : Log.Subscriber) (path : String) (limit : UInt64) (cause : String)
    (streams : Streams) :
    load log path limit (.error cause) streams =
      .error (.unreadable path cause, note log [readingRecord path] streams) :=
  rfl

theorem load_tooLarge (log : Log.Subscriber) (path : String) (limit : UInt64) {image : List UInt8}
    (streams : Streams) (large : maxImageSize < image.length) :
    load log path limit (.ok image) streams =
      .error (.tooLarge image.length maxImageSize,
        note log [imageRecord path image.length, buildingRecord limit]
          (note log [readingRecord path] streams)) := by
  rw [load, Machine.load, if_pos large]

end Command

end Micro86
