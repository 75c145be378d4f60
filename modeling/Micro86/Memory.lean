import Micro86.Layout
import Micro86.Text.Hex

/-!
The bytes of the machine: one flat space of `memorySize` cells.

Words are stored low byte first. An access that leaves the space fails with an address, and a
failing write changes nothing. Sums of addresses wrap at the end of the 64-bit range.
-/

namespace Micro86

inductive MemoryError where
  | outOfBounds (address : Address)
  deriving DecidableEq, Repr

def MemoryError.message : MemoryError → String
  | .outOfBounds address => s!"address {Hex.marked 0 address.toNat} is out of bounds"

@[ext]
structure Memory where
  cells : Vector UInt8 memorySize
  deriving DecidableEq

namespace Memory

def empty : Memory := ⟨Vector.replicate memorySize 0⟩

def read8 (m : Memory) (address : Address) : Except MemoryError UInt8 :=
  if h : address.toNat < memorySize then .ok m.cells[address.toNat]
  else .error (.outOfBounds address)

@[inline]
def write8 (m : Memory) (address : Address) (value : UInt8) : Except MemoryError Memory :=
  if h : address.toNat < memorySize then .ok ⟨m.cells.set address.toNat value h⟩
  else .error (.outOfBounds address)

def read16 (m : Memory) (address : Address) : Except MemoryError Word := do
  let low ← m.read8 address
  let high ← m.read8 (address + 1)
  return Word.ofBytes low high

/-- The second byte is looked at first, so that a word on the edge is not half written. At the last
address of all the sum wraps to 0, and it is the first byte that fails. -/
@[inline]
def write16 (m : Memory) (address : Address) (value : Word) : Except MemoryError Memory :=
  if (address + 1).toNat < memorySize then do
    let m ← m.write8 address value.low
    m.write8 (address + 1) value.high
  else .error (.outOfBounds (address + 1))

/-- The cells with `bytes` from index `i` on. -/
def place (cells : Vector UInt8 memorySize) (i : Nat) : List UInt8 → Vector UInt8 memorySize
  | [] => cells
  | b :: bytes => place (cells.setIfInBounds i b) (i + 1) bytes

/-- Copies a block, all of it or nothing; the failure names the end of the block, which may have
wrapped. -/
def load (m : Memory) (address : Address) (bytes : List UInt8) : Except MemoryError Memory :=
  let finish := address + bytes.length.toUInt64
  if address ≤ finish ∧ finish.toNat ≤ memorySize then .ok ⟨place m.cells address.toNat bytes⟩
  else .error (.outOfBounds finish)

/-- The bytes from index `i` up to the first `terminator`, at most `n` of them. -/
def scan (m : Memory) (terminator : UInt8) : Nat → Nat → List UInt8
  | 0, _ => []
  | n + 1, i =>
    if h : i < memorySize then
      let b := m.cells[i]
      if b = terminator then [] else b :: m.scan terminator n (i + 1)
    else []

/-- The bytes from `start` up to the first `terminator`, the end of memory or
`maxImageSize` bytes. -/
def terminated (m : Memory) (start : Address) (terminator : UInt8) : List UInt8 :=
  m.scan terminator (min maxImageSize (memorySize - start.toNat)) start.toNat

theorem read8_eq_ok_iff {m : Memory} {a : Address} {b : UInt8} :
    m.read8 a = .ok b ↔ ∃ h : a.toNat < memorySize, m.cells[a.toNat] = b := by
  by_cases h : a.toNat < memorySize
  · simp only [read8, h, ↓reduceDIte, Except.ok.injEq, exists_true_left]
  · constructor
    · intro e
      simp [read8, h] at e
    · rintro ⟨inside, _⟩
      exact absurd inside h

theorem read8_eq_error_iff {m : Memory} {a : Address} {e : MemoryError} :
    m.read8 a = .error e ↔ memorySize ≤ a.toNat ∧ e = .outOfBounds a := by
  by_cases h : a.toNat < memorySize
  · simp only [read8, h, ↓reduceDIte, reduceCtorEq, false_iff]
    omega
  · simp only [read8, h, ↓reduceDIte, Except.error.injEq, Nat.le_of_not_lt h, true_and, eq_comm]

theorem read8_of_write8 {m m' : Memory} {a b : Address} {value : UInt8}
    (h : m.write8 a value = .ok m') : m'.read8 b = if a = b then .ok value else m.read8 b := by
  unfold write8 at h
  split at h
  · cases h
    unfold read8
    by_cases hab : a = b
    · subst hab; simp [*]
    · have : a.toNat ≠ b.toNat := fun e => hab (UInt64.toNat_inj.1 e)
      simp [hab, this]
  · cases h

def describe (_ : Memory) : String :=
  s!"Memory \x7b size: {Hex.marked 0 memorySize}, .. \x7d"

end Memory

end Micro86
