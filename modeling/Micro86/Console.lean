/-!
Where characters come from and go to.

A console is a state with two calls, each of which may fail with a text. `Buffer` has its whole
input at hand and keeps all output; `Unreliable` is a buffer of which some calls fail.
-/

namespace Micro86

class Console (κ : Type) where
  /-- The next byte of input, `none` once it is exhausted. -/
  readByte : κ → Except String (Option UInt8) × κ
  writeBytes : κ → List UInt8 → Except String Unit × κ

structure Buffer where
  unread : List UInt8
  output : Array UInt8
  deriving DecidableEq, Repr

namespace Buffer

def ofInput (input : List UInt8) : Buffer := ⟨input, #[]⟩

def readByte (b : Buffer) : Option UInt8 × Buffer :=
  match b.unread with
  | [] => (none, b)
  | c :: unread => (some c, { b with unread })

def write (b : Buffer) (bytes : List UInt8) : Buffer :=
  { b with output := bytes.foldl Array.push b.output }

instance : Console Buffer where
  readByte b := let (c, b) := b.readByte; (.ok c, b)
  writeBytes b bytes := (.ok (), b.write bytes)

theorem readByte_eq (b : Buffer) : Console.readByte b = (.ok b.readByte.1, b.readByte.2) :=
  rfl

theorem writeBytes_eq (b : Buffer) (bytes : List UInt8) :
    Console.writeBytes b bytes = (.ok (), b.write bytes) :=
  rfl

theorem byte_readByte (b : Buffer) : b.readByte.1 = b.unread.head? := by
  unfold readByte
  cases b.unread <;> rfl

theorem unread_readByte (b : Buffer) : b.readByte.2.unread = b.unread.tail := by
  unfold readByte
  cases unread : b.unread with
  | nil => exact unread
  | cons => rfl

theorem output_readByte (b : Buffer) : b.readByte.2.output = b.output := by
  unfold readByte
  split <;> rfl

theorem output_write (b : Buffer) (bytes : List UInt8) :
    (b.write bytes).output.toList = b.output.toList ++ bytes := by
  simp [write]

def describeBytes (bytes : List UInt8) : String :=
  "[" ++ ", ".intercalate (bytes.map fun b => toString b.toNat) ++ "]"

def describe (b : Buffer) : String :=
  let input := describeBytes b.unread
  let output := describeBytes b.output.toList
  s!"BufferConsole \x7b input: {input}, output: {output} \x7d"

end Buffer

/-- A buffer whose calls fail at the given turns, counted from 1; a call that fails does nothing. -/
structure Unreliable where
  buffer : Buffer
  failingReads : List Nat
  failingWrites : List Nat
  reads : Nat := 0
  writes : Nat := 0
  deriving DecidableEq, Repr

namespace Unreliable

def readByte (u : Unreliable) : Except String (Option UInt8) × Unreliable :=
  let u := { u with reads := u.reads + 1 }
  if u.reads ∈ u.failingReads then (.error "read failed", u)
  else
    let (c, buffer) := u.buffer.readByte
    (.ok c, { u with buffer })

def writeBytes (u : Unreliable) (bytes : List UInt8) : Except String Unit × Unreliable :=
  let u := { u with writes := u.writes + 1 }
  if u.writes ∈ u.failingWrites then (.error "write failed", u)
  else (.ok (), { u with buffer := u.buffer.write bytes })

instance : Console Unreliable where
  readByte := readByte
  writeBytes := writeBytes

end Unreliable

end Micro86
