import Micro86.Proofs.Arguments
import Micro86.Proofs.ExitCode
import Micro86.Proofs.Logging

/-!
# Commands that log nothing

Where the log is off and shows nothing, the command writes what the program writes and nothing else:
`off_leaves_output`. A filter without levels shows no record, `Mute.hides`, so the filters of this
library can be turned off, `silences_ofTexts`.
-/

namespace Micro86

namespace Log.Filter

/-- No directive shows a level. -/
def Mute (f : Filter) : Prop :=
  ∀ d ∈ f, d.level? = none

variable {f : Filter}

theorem watchers_subset (f : Filter) (s : Span) : f.watchers s ⊆ f := by
  induction f with
  | nil => exact List.Subset.refl _
  | cons d f ih =>
    rw [watchers]
    split
    · exact List.cons_subset_cons d ih
    · exact List.subset_cons_of_subset d ih

theorem mem_of_decisive {covers : Directive → Bool} {d : Directive}
    (h : f.decisive? covers = some d) :
    d ∈ f := by
  suffices ∀ best ∈ f.decisive? covers, best ∈ f from this d h
  refine List.foldlRecOn (motive := fun best? => ∀ best ∈ best?, best ∈ f) f _ nofun ?_
  intro best? ih e mem best chosen
  split at chosen
  · cases chosen
    exact mem
  · exact ih best chosen

namespace Mute

theorem admits (mute : f.Mute) (level : Level) (covers : Directive → Bool) :
    f.admits level covers = false := by
  rw [Filter.admits]
  cases decides : f.decisive? covers with
  | none => rfl
  | some d => rw [Option.any_some, mute d (mem_of_decisive decides)]; rfl

theorem within (mute : f.Mute) (s : Span) : f.within s = none := by
  refine List.foldlRecOn (motive := fun least? => least? = none) _ _ rfl ?_
  intro least? ih d mem
  rw [ih, mute d (f.watchers_subset s (List.mem_filter.mp mem).1)]
  rfl

/-- No span opens a level. -/
theorem enter (mute : f.Mute) (spans : List Span) : (f.enter none spans).2 = none := by
  induction spans with
  | nil => rfl
  | cons s spans ih =>
    rw [Filter.enter]
    split
    · rw [mute.within s]
      exact ih
    · exact ih

theorem hides (mute : f.Mute) (r : Record) : f.view? r = none := by
  simp only [view?, mute.enter, admitsRecord, mute.admits]
  rfl

end Mute

end Log.Filter

namespace Command

variable {log : Log.Subscriber} {streams : Streams}

/-- Whether nothing is shown where the log is turned off. -/
def Toolkit.Silences (kit : Toolkit) : Prop :=
  ∀ style, ∃ log, kit.subscribe? "off" style = some log ∧ ∀ size r, log.text size r = ""

theorem Toolkit.Silences.subscriber {kit : Toolkit} (silences : kit.Silences) (terminal : Bool)
    (o : Options) (size : Nat) (r : Log.Record) :
    (kit.subscriber { directives? := some "off", terminal } o).text size r = "" := by
  obtain ⟨log, off, silent⟩ := silences (o.style terminal)
  rw [Toolkit.subscriber, Option.bind_some, off, Option.getD_some]
  exact silent size r

/-- The filters of this library show nothing where they are turned off. -/
theorem silences_ofTexts (script : Shell → String) (advice : UsageError → String)
    (clock : Nat → Option String) : (Toolkit.ofTexts script advice clock).Silences := by
  intro style
  have read : Log.Filter.parse? "off" = some [{ target := "", level? := none }] := by decide
  have mute : Log.Filter.Mute [{ target := "", level? := none }] := by
    intro d mem
    rw [List.mem_singleton.mp mem]
  refine ⟨.ofFilter clock [{ target := "", level? := none }] style, ?_, fun size r => ?_⟩
  · simp only [Toolkit.ofTexts, read, Option.map_some]
  · show ((Log.Filter.view? _ r).map _).getD "" = ""
    rw [mute.hides]
    rfl

theorem note_silent (silent : ∀ size r, log.text size r = "") (records : List Log.Record)
    (s : Streams) : note log records s = s := by
  refine List.foldlRecOn (motive := fun t => t = s) _ _ rfl ?_
  intro t same r _
  simp only [silent, ↓reduceIte]
  exact same

/-- Streams beside a buffer with the same input and the same output. -/
def sameBuffer : Coupling Streams :=
  .sameInput Eq fun bytes same => congrArg (bytes.foldl Array.push) same

theorem tolerates_silent (silent : ∀ size r, log.text size r = "") : sameBuffer.Tolerates log where
  exact _ _ same := same
  sure _ := rfl
  note records b s h := by
    rw [note_silent silent]
    exact h

/-- A step on a buffer that fails leaves the buffer as it was. -/
theorem console_of_failed {m m' : Machine Buffer} {f : Fault}
    (step : Machine.Step m (.error f) m') :
    m'.console = m.console := by
  have unheard := step.aftermath.console
  generalize m.console = b, m'.console = c at unheard
  cases unheard with
  | uncalled => rfl
  | unread answer => cases answer
  | unwritten answer => cases answer

/-- Where the log is off, the command writes to the standard output the bytes that the program
writes to a buffer, in this order, and nothing if no program is loaded. However the run ends,
the bytes are those of the run; if it fails, they are all that was written before the
instruction that fails. -/
theorem off_leaves_output (kit : Toolkit) (reads : kit.Reads) (silences : kit.Silences)
    (terminal : Bool) (read : String → Except String (List UInt8)) {streams : Streams}
    (works : streams.Works) (fresh : streams.output = #[]) {arguments : List String} {o : Options}
    (accepted : kit.parse arguments = .ok o) (runs : o.shell? = none) :
    ∃ items path, Says items arguments ∧ (∀ said, Says said arguments → said = items) ∧
      o.SaidBy items ∧ .input path ∈ items ∧
      let answer := respond read kit { directives? := some "off", terminal } arguments streams
      (∀ cause, read path = .error cause → answer.output = #[]) ∧
      ∀ image, read path = .ok image →
        (maxImageSize < image.length → answer.output = #[]) ∧
        (image.length ≤ maxImageSize →
          ∃ s, Machine.load (programName path) image (Buffer.ofInput streams.input) = .ok s ∧
            answer.output = (s.run o.limit).2.console.output ∧
            ∀ f, (s.run o.limit).1 = .error f →
              ∃ n a, s.after? n = some a ∧ a.step.1 = .error f ∧
                answer.output = a.console.output) := by
  obtain ⟨items, path, line, unique, said, named, given⟩ := exists_line reads accepted runs
  refine ⟨items, path, line, unique, said, named, ?_⟩
  intro answer
  obtain ⟨log, off⟩ : ∃ log, kit.subscriber { directives? := some "off", terminal } o = log :=
    ⟨_, rfl⟩
  have silent : ∀ size r, log.text size r = "" := off ▸ silences.subscriber terminal o
  have answers : answer = (execute log path o.limit (read path) streams).response kit o := by
    rw [← off]
    exact respond_eq read _ streams accepted runs given
  clear_value answer
  subst answers
  have unloaded {found : Except String (List UInt8)} {e : LoadError} {rest : Streams}
      (fails : load log path o.limit found streams = .error (e, rest))
      (same : rest = streams) :
      ((execute log path o.limit found streams).response kit o).output = #[] := by
    have ended : execute log path o.limit found streams = .unloaded e rest :=
      executeWith_unloaded _ fails
    rw [ended, same]
    exact fresh
  refine ⟨fun cause unreadable => ?_, fun image readable => ⟨fun large => ?_, fun fits => ?_⟩⟩
  · rw [unreadable]
    exact unloaded (load_unreadable ..) (note_silent silent _ _)
  · rw [readable]
    refine unloaded (load_tooLarge _ _ _ _ large) ?_
    rw [note_silent silent, note_silent silent]
  · have start : sameBuffer.Consoles (Buffer.ofInput streams.input) streams :=
      ⟨works, rfl, fresh.symm⟩
    obtain ⟨s, t, loaded, ran, machines⟩ :=
      execute_coupled (tolerates_silent silent) start path o.limit fits
    have output : ((execute log path o.limit (.ok image) streams).response kit o).output =
        (s.run o.limit).2.console.output := by
      rw [ran, machines.console.2.2]
      cases (s.run o.limit).1 <;> rfl
    rw [readable]
    refine ⟨s, loaded, output, fun f failed => ?_⟩
    obtain ⟨r, m, runs⟩ := Machine.exists_runs o.limit s
    rw [runs.run_eq] at failed output
    cases failed
    obtain ⟨n, a, reached, -, step⟩ := runs.failed
    rw [console_of_failed step] at output
    exact ⟨n, a, reached, congrArg Prod.fst step.step_eq, output⟩

/-- A program that prints a character and runs into a byte that starts no instruction. -/
theorem off_leaves_output_of_failure :
    let kit := Toolkit.ofTexts (fun _ => "") (fun _ => "") fun _ => none
    (respond (fun _ => .ok [0xB4, 2, 0xCD, 0x21]) kit { directives? := some "off" }
      ["-v", "/a.com"] {}).output = #[0] := by
  intro kit
  have accepted : kit.parse ["-v", "/a.com"] =
      .ok ⟨some "/a.com", 1, none, 0x10000, false, none⟩ := by rfl
  have fits : ([0xB4, 2, 0xCD, 0x21] : List UInt8).length ≤ maxImageSize := by decide
  have works : Streams.Works {} := ⟨nofun, nofun⟩
  obtain ⟨items, path, -, -, said, given, -, loads⟩ :=
    off_leaves_output kit (reads_ofTexts _ _ _) (silences_ofTexts _ _ _) false
      (fun _ => .ok [0xB4, 2, 0xCD, 0x21]) works rfl accepted rfl
  obtain rfl : "/a.com" = path := Option.some.inj ((said.path path).mp given)
  obtain ⟨s, load, output, -⟩ := (loads _ rfl).2 fits
  have eq := Machine.eq_loaded load
  have code (i : Nat) (lt : i < 4) :
      s.memory.cells[s.ip.toNat + i]? = [0xB4, 2, 0xCD, 0x21][i]? := by
    rw [eq]
    exact Machine.image_loaded _ _ fits lt
  obtain ⟨m, prints⟩ : ∃ m, Machine.CallsFor s 2 .writeCharEcho m :=
    Machine.exists_callsFor (by decide) code
  have ip : m.ip = 0x104 := by rw [prints.ip, eq]; rfl
  have next : m.instruction = .error (Instruction.unsupported m.memory m.ip 0) := by
    have zero : m.memory.read8 m.ip = .ok 0 := by
      rw [prints.memory, ip, eq]
      exact Machine.read8_loaded _ _ _ (by decide) (by decide)
    rw [Machine.instruction, Instruction.fetch, zero]
    rfl
  have running : m.status = .running := by
    rw [prints.handled.status, eq]
    rfl
  have steps : m.steps = 2 := by
    rw [prints.steps, eq]
    rfl
  have passes : s.run 0x10000 = m.run 0x10000 := by
    apply prints.run
    · rw [eq]
      decide
    · rw [eq]
      decide
  have fails : m.stop? 0x10000 = none := by
    rw [Machine.stop?_eq_none_iff, running, steps, ip]
    decide
  rw [output]
  show (s.run 0x10000).2.console.output = _
  rw [passes, (Machine.Runs.fail fails (.unreadable next)).run_eq]
  apply Array.toList_inj.mp
  rw [prints.handled.output, eq]
  rfl

end Command

end Micro86
