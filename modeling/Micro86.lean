import Micro86.Main
import Micro86.Machine.Trace
import Micro86.Proofs.History
import Micro86.Proofs.Memory
import Micro86.Proofs.Registers
import Micro86.Proofs.Stack
import Micro86.Proofs.CallStack
import Micro86.Proofs.Run
import Micro86.Proofs.Coupling
import Micro86.Proofs.Noninterference
import Micro86.Proofs.Faults
import Micro86.Proofs.Persistence
import Micro86.Proofs.Effects
import Micro86.Proofs.Aftermath
import Micro86.Proofs.Invariant
import Micro86.Proofs.Frame
import Micro86.Proofs.Diagnosis
import Micro86.Proofs.Iteration
import Micro86.Proofs.Interrupts
import Micro86.Proofs.Traffic
import Micro86.Proofs.ExitCode
import Micro86.Proofs.EndOfInput
import Micro86.Proofs.Recurrence
import Micro86.Proofs.Trace
import Micro86.Proofs.Logging
import Micro86.Proofs.Silence
import Micro86.Proofs.CommandLine
import Micro86.Proofs.Arguments
import Micro86.Proofs.ExitStatus
import Micro86.Proofs.Unbounded
import Micro86.Proofs.Operations
import Micro86.Proofs.NoWrap
import Micro86.Proofs.ByteMap
import Micro86.Proofs.Scan
import Micro86.Proofs.Footprint
import Micro86.Proofs.OutOfBounds
import Micro86.Proofs.WordMap
import Micro86.Proofs.Dump
import Micro86.Proofs.Fresh
import Micro86.Proofs.Lifo
