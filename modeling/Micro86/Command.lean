import Micro86.Command.Toolkit
import Micro86.Image
import Micro86.Log.Narration
import Micro86.Streams

/-!
The command: it loads the program in a file, runs it on the standard streams, and answers
with an exit status.

Log lines go to the standard output, between what the program writes. What touches the host is a
parameter in a monad: how a file is read, and what is done with the streams before each instruction.
`respond` is the command where a file is at hand and nothing is done in between.
-/

namespace Micro86.Command

section Records

def target : String := "emu8086_cli::run"

def loaderTarget : String := "emu8086::loader"

def readingRecord (path : String) : Log.Record :=
  { level := .info, target, message := "Reading program", fields := [⟨"path", .text path⟩] }

def imageRecord (path : String) (size : Nat) : Log.Record :=
  { level := .debug, target := loaderTarget, message := "Read program image",
    fields := [⟨"path", .text path⟩, ⟨"size", .number size⟩] }

def buildingRecord (limit : UInt64) : Log.Record :=
  { level := .debug, target, message := "Building computer",
    fields := [⟨"max_steps", .number limit.toNat⟩] }

def runningRecord : Log.Record :=
  { level := .info, target, message := "Running program" }

def endRecord {κ : Type} (outcome : Outcome) (m : Machine κ) : Log.Record :=
  { level := .info, target, message := "End of program",
    fields := [⟨"outcome", .text outcome.text⟩, ⟨"steps", .number m.steps.toNat⟩,
      ⟨"registers", .text m.registers.dump⟩] }

end Records

/-- Writes the records that are shown, whether the host takes them or not. -/
def note (log : Log.Subscriber) (records : List Log.Record) (s : Streams) : Streams :=
  records.foldl
    (fun s r =>
      let text := log.text s.output.size r
      if text = "" then s else (s.writeBytes text.toUTF8.toList).2)
    s

/-- The last part of a path, or the whole path if that part leads nowhere or upwards. -/
def programName (path : String) : String :=
  match ((path.splitOn "/").filter fun part => part != "" && part != ".").getLast? with
  | none | some ".." => path
  | some name => name

/-- Loads what was found at the path; beside an error stand the streams with what was logged. -/
def load (log : Log.Subscriber) (path : String) (limit : UInt64)
    (found : Except String (List UInt8)) (s : Streams) :
    Except (LoadError × Streams) (Machine Streams) :=
  let s := note log [readingRecord path] s
  match found with
  | .error cause => .error (.unreadable path cause, s)
  | .ok image =>
    let s := note log [imageRecord path image.length, buildingRecord limit] s
    match Machine.load (programName path) image s with
    | .error e => .error (e, s)
    | .ok m =>
      let records := [Log.loaded m.program image.length, runningRecord]
      .ok { m with console := note log records m.console }

/-- Logs the next instruction. -/
def noteStep (log : Log.Subscriber) (limit : UInt64) (m : Machine Streams) : Machine Streams :=
  let records := Log.stepRecords limit m
  { m with console := note log records m.console }

def noteEnd (log : Log.Subscriber) (limit : UInt64) (outcome : Outcome) (m : Machine Streams) :
    Machine Streams :=
  let records := Log.outcomeRecords limit m outcome ++ [endRecord outcome m]
  { m with console := note log records m.console }

/-- How far a program came. -/
inductive Ended where
  /-- It was not loaded, and there was no machine. -/
  | unloaded (e : LoadError) (s : Streams)
  | ran (result : Except Fault Outcome) (m : Machine Streams)

section Effects

variable {μ : Type → Type} [Monad μ]

/-- Executes at most `budget` instructions, `before` each of which something is done. -/
@[specialize]
def runFor (before : Machine Streams → μ (Machine Streams)) :
    Nat → Machine Streams → μ (Except Fault Outcome × Machine Streams)
  | 0, m => pure (.ok ((m.outcome? 0).getD .stepLimit), m)
  | budget + 1, m =>
    match m.outcome? (budget + 1) with
    | some outcome => pure (.ok outcome, m)
    | none => do
      let m ← before m
      match m.step with
      | (.error f, m) => pure (.error f, m)
      | (.ok (), m) => runFor before budget m

/-- Runs the program that was found at the path. -/
@[specialize]
def executeWith (turn : Machine Streams → μ (Machine Streams)) (log : Log.Subscriber)
    (path : String) (limit : UInt64) (found : Except String (List UInt8)) (s : Streams) : μ Ended :=
  match load log path limit found s with
  | .error (e, s) => pure (.unloaded e s)
  | .ok m => do
    let (result, m) ← runFor (fun m => turn (noteStep log limit m)) (m.budget limit) m
    match result with
    | .error f => pure (.ran (.error f) m)
    | .ok outcome => pure (.ran (.ok outcome) (noteEnd log limit outcome m))

end Effects

/-- The exit status of a run that stopped without a fault. -/
def exitStatus (o : Options) : Outcome → UInt8
  | .halted code => if o.exitCode then code else 0
  | .stepLimit | .endOfMemory => 0

/-- The answer to an error. -/
def fail (kit : Toolkit) (r : Report) (s : Streams) : Response :=
  { status := 1, output := s.output, errors := kit.page r ++ "\n" }

def Ended.response (kit : Toolkit) (o : Options) : Ended → Response
  | .unloaded e s => fail kit e.report s
  | .ran (.error f) m => fail kit f.report m.console
  | .ran (.ok outcome) m =>
    { status := exitStatus o outcome, output := m.console.output, errors := "" }

/-- An answer that needs no program to run. -/
def say (text : String) : Response :=
  { status := 0, output := text.toUTF8.data, errors := "" }

/-- The whole command. -/
@[specialize]
def respondWith {μ : Type → Type} [Monad μ] (read : String → μ (Except String (List UInt8)))
    (turn : Machine Streams → μ (Machine Streams)) (kit : Toolkit) (around : Surroundings)
    (arguments : List String) (s : Streams) : μ Response :=
  match kit.parse arguments with
  | .error response => pure response
  | .ok o =>
    match o.shell?, o.path? with
    | some shell, _ => pure (say (kit.script shell))
    | none, none => pure { status := 1, output := #[], errors := "" }
    | none, some path => do
      let found ← read path
      let ended ← executeWith turn (kit.subscriber around o) path o.limit found s
      pure (ended.response kit o)

/-- Runs the program without a host. -/
def execute (log : Log.Subscriber) (path : String) (limit : UInt64)
    (found : Except String (List UInt8)) (s : Streams) : Ended :=
  Id.run (executeWith pure log path limit found s)

/-- The command on files that can be read as `read` tells, without a host. -/
def respond (read : String → Except String (List UInt8)) (kit : Toolkit) (around : Surroundings)
    (arguments : List String) (s : Streams) : Response :=
  Id.run (respondWith (fun path => pure (read path)) pure kit around arguments s)

end Micro86.Command
