import Micro86.Command
import Micro86.Command.Standard

/-!
The command on the streams and files of the process. Input is read when the program asks for it, and
output is sent before each instruction.
-/

namespace Micro86

open Command

/-- Why input cannot be read that was not asked for. -/
def notYet : String := "Resource temporarily unavailable (os error 11)"

/-- Whether the next instruction waits for input. -/
def Machine.waits (m : Machine Streams) : Bool :=
  match m.step with
  | (.error (.console text), _) => text == notYet
  | _ => false

def send (bytes : Array UInt8) : IO Unit := do
  let out ← IO.getStdout
  out.write ⟨bytes⟩
  out.flush

/-- What the host gives when it is asked for a byte. -/
def arrival : IO (Except String (List UInt8)) := do
  try
    let bytes ← (← IO.getStdin).read 1
    return .ok bytes.toList
  catch e => return .error (toString e)

/-- Sends what was written, and asks for input if the next instruction waits for it. -/
def exchange (m : Machine Streams) : IO (Machine Streams) := do
  let mut console := m.console
  unless console.sent.isEmpty do
    send console.sent
    console := { console with sent := #[] }
  if console.fetched.isEmpty && m.waits then
    console := { console with arrivals := [← arrival, .error notYet] }
  return { m with console }

/-- The number by which the host tells a failure; some of its calls give it negated. -/
def hostCode (code : UInt32) : UInt32 :=
  if code < 0x80000000 then code else 0 - code

def causeText : IO.Error → String
  | .noFileOrDirectory .. => "No such file or directory (os error 2)"
  | .permissionDenied .. => "Permission denied (os error 13)"
  | .inappropriateType _ code _ =>
    if hostCode code = 20 then "Not a directory (os error 20)" else "Is a directory (os error 21)"
  | .invalidArgument _ code text =>
    if hostCode code = 36 then "File name too long (os error 36)" else text
  | e => toString e

def readImage (path : String) : IO (Except String (List UInt8)) := do
  try
    let bytes ← IO.FS.readBinFile path
    return .ok bytes.toList
  catch e => return .error (causeText e)

/-- In place of a script: the options, one on each line. -/
def optionList (_ : Shell) : String :=
  String.join (Opt.all.map fun o => "--" ++ o.long ++ "\n")

end Micro86

open Micro86 Micro86.Command in
def main (arguments : List String) : IO UInt32 := do
  let kit := Toolkit.ofTexts optionList (fun _ => "") fun _ => none
  let around : Surroundings :=
    { directives? := ← IO.getEnv "RUST_LOG", terminal := ← (← IO.getStdout).isTty }
  let response ←
    respondWith readImage exchange kit around arguments { arrivals := [.error notYet] }
  send response.output
  (← IO.getStderr).putStr response.errors
  return response.status.toUInt32
