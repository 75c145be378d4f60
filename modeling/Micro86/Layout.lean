/-!
The address space and the words in it.

Addresses are 64-bit and may lie anywhere; memory is the first `memorySize` of them. The program
image starts at `programStart` and the stack grows down from `stackTop`.
-/

namespace Micro86

abbrev Address := UInt64

abbrev Word := UInt16

def memorySize : Nat := 0x10000

def programStart : Address := 0x100

/-- The largest image that fits between the program start and the end of memory. -/
def maxImageSize : Nat := memorySize - programStart.toNat

def stackTop : Address := 0x10000

/-- How many instructions a run may execute when no other bound is given. -/
def defaultStepLimit : Nat := memorySize

namespace Word

/-- The word stored as `low` followed by `high`. -/
def ofBytes (low high : UInt8) : Word :=
  low.toUInt16 + 256 * high.toUInt16

def low (w : Word) : UInt8 := w.toUInt8

def high (w : Word) : UInt8 := (w / 256).toUInt8

theorem toNat_ofBytes (low high : UInt8) :
    (ofBytes low high).toNat = low.toNat + 256 * high.toNat := by
  have hl := low.toNat_lt
  have hh := high.toNat_lt
  simp only [ofBytes, UInt16.toNat_add, UInt16.toNat_mul, UInt8.toNat_toUInt16, UInt16.reduceToNat]
  omega

theorem toNat_low (w : Word) : w.low.toNat = w.toNat % 256 := by
  simp [low]

theorem toNat_high (w : Word) : w.high.toNat = w.toNat / 256 := by
  have := w.toNat_lt
  simp only [high, UInt16.toNat_toUInt8, UInt16.toNat_div, UInt16.reduceToNat]
  omega

@[simp]
theorem low_ofBytes (l h : UInt8) : (ofBytes l h).low = l := by
  have := l.toNat_lt
  apply UInt8.toNat_inj.1
  rw [toNat_low, toNat_ofBytes]
  omega

@[simp]
theorem high_ofBytes (l h : UInt8) : (ofBytes l h).high = h := by
  have := l.toNat_lt
  apply UInt8.toNat_inj.1
  rw [toNat_high, toNat_ofBytes]
  omega

@[simp]
theorem ofBytes_low_high (w : Word) : ofBytes w.low w.high = w := by
  apply UInt16.toNat_inj.1
  rw [toNat_ofBytes, toNat_low, toNat_high]
  omega

end Word

end Micro86
