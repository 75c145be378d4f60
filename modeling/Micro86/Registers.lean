import Micro86.Layout
import Micro86.Text.Hex

/-!
The register bank: fourteen words of two bytes each, low byte first.

The byte registers are the halves of the first four words, so writing one changes a half of its word
and writing a word changes both of its halves.
-/

namespace Micro86

inductive Reg8 where
  | al | ah | bl | bh | cl | ch | dl | dh
  deriving DecidableEq, Repr

/-- The word registers in the order of the bank. -/
inductive Reg16 where
  | ax | bx | cx | dx | si | di | bp | sp | ip | cs | ds | es | ss | flags
  deriving DecidableEq, Repr

def bankSize : Nat := 28

namespace Reg8

def all : List Reg8 := [.al, .ah, .bl, .bh, .cl, .ch, .dl, .dh]

def name : Reg8 → String
  | .al => "AL" | .ah => "AH" | .bl => "BL" | .bh => "BH"
  | .cl => "CL" | .ch => "CH" | .dl => "DL" | .dh => "DH"

def offset : Reg8 → Nat
  | .al => 0 | .ah => 1 | .bl => 2 | .bh => 3 | .cl => 4 | .ch => 5 | .dl => 6 | .dh => 7

theorem offset_lt (r : Reg8) : r.offset < bankSize := by
  cases r <;> decide

end Reg8

namespace Reg16

def all : List Reg16 :=
  [.ax, .bx, .cx, .dx, .si, .di, .bp, .sp, .ip, .cs, .ds, .es, .ss, .flags]

def name : Reg16 → String
  | .ax => "AX" | .bx => "BX" | .cx => "CX" | .dx => "DX" | .si => "SI" | .di => "DI" | .bp => "BP"
  | .sp => "SP" | .ip => "IP" | .cs => "CS" | .ds => "DS" | .es => "ES" | .ss => "SS"
  | .flags => "FLAGS"

/-- Where the low byte lies; the high byte follows it. -/
def offset : Reg16 → Nat
  | .ax => 0 | .bx => 2 | .cx => 4 | .dx => 6 | .si => 8 | .di => 10 | .bp => 12
  | .sp => 14 | .ip => 16 | .cs => 18 | .ds => 20 | .es => 22 | .ss => 24 | .flags => 26

theorem offset_succ_lt (r : Reg16) : r.offset + 1 < bankSize := by
  cases r <;> decide

theorem offset_lt (r : Reg16) : r.offset < bankSize :=
  Nat.lt_of_succ_lt r.offset_succ_lt

end Reg16

@[ext]
structure Registers where
  bank : Vector UInt8 bankSize
  deriving DecidableEq

namespace Registers

def zero : Registers := ⟨Vector.replicate bankSize 0⟩

def byte (rs : Registers) (r : Reg8) : UInt8 :=
  have := r.offset_lt
  rs.bank[r.offset]

def setByte (rs : Registers) (r : Reg8) (value : UInt8) : Registers :=
  ⟨rs.bank.set r.offset value r.offset_lt⟩

def word (rs : Registers) (r : Reg16) : Word :=
  have := r.offset_lt
  have := r.offset_succ_lt
  Word.ofBytes rs.bank[r.offset] rs.bank[r.offset + 1]

def setWord (rs : Registers) (r : Reg16) (value : Word) : Registers :=
  ⟨(rs.bank.set r.offset value.low r.offset_lt).set (r.offset + 1) value.high r.offset_succ_lt⟩

@[simp]
theorem word_setWord_self (rs : Registers) (r : Reg16) (value : Word) :
    (rs.setWord r value).word r = value := by
  cases r <;> simp [word, setWord, Reg16.offset]

theorem word_setWord_of_ne (rs : Registers) {r s : Reg16} (h : r ≠ s) (value : Word) :
    (rs.setWord r value).word s = rs.word s := by
  cases r <;> cases s <;> first | exact absurd rfl h | simp [word, setWord, Reg16.offset]

theorem byte_setByte (rs : Registers) (r s : Reg8) (value : UInt8) :
    (rs.setByte r value).byte s = if r = s then value else rs.byte s := by
  cases r <;> cases s <;> simp [byte, setByte, Reg8.offset]

/-- One line of fields `NAME=XXXX` in the order of the bank. -/
def dump (rs : Registers) : String :=
  " ".intercalate (Reg16.all.map fun r => s!"{r.name}={Hex.upper 4 (rs.word r).toNat}")

/-- The entries `NAME: 0xXXXX` in the order of the bank. -/
def entries (rs : Registers) : List String :=
  Reg16.all.map fun r => s!"{r.name}: {Hex.marked 4 (rs.word r).toNat}"

def describe (rs : Registers) : String :=
  "\x7b" ++ ", ".intercalate rs.entries ++ "\x7d"

/-- The entries of `describe`, each on a line of its own. -/
def describeLines (rs : Registers) : String :=
  "\x7b\n" ++ String.join (rs.entries.map fun e => s!"    {e},\n") ++ "\x7d"

end Registers

end Micro86
