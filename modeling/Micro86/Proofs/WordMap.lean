import Mathlib.Logic.Function.Basic
import Micro86.Proofs.Registers

/-!
# The register bank as a map of words

A `RegisterWrite` changes one word of the bank, all of it or one half. On a map from registers to
words it is one update, and the bank follows the map through any writes: `bank_maps_words`. Since a
bank is nothing but its words, what holds for updates of the map holds for writes to the bank.
-/

namespace Micro86

inductive Half where
  | low | high
  deriving DecidableEq, Repr

namespace Word

def half (w : Word) : Half → UInt8
  | .low => w.low
  | .high => w.high

/-- The word with `value` for one of its halves. -/
def withHalf (w : Word) (value : UInt8) : Half → Word
  | .low => ofBytes value w.high
  | .high => ofBytes w.low value

theorem withHalf_withHalf (w : Word) (x y : UInt8) (h : Half) :
    (w.withHalf x h).withHalf y h = w.withHalf y h := by
  cases h <;> simp [withHalf]

theorem withHalf_comm (w : Word) (x y : UInt8) {h k : Half} (apart : h ≠ k) :
    (w.withHalf x h).withHalf y k = (w.withHalf y k).withHalf x h := by
  cases h <;> cases k <;> simp [withHalf] at apart ⊢

end Word

/-- Which half of its word a byte register is. -/
def Reg8.half : Reg8 → Half
  | .al | .bl | .cl | .dl => .low
  | .ah | .bh | .ch | .dh => .high

theorem Reg8.eq_of_half {a b : Reg8} (wide : a.wide = b.wide) (half : a.half = b.half) : a = b := by
  revert wide half
  cases a <;> cases b <;> decide

namespace Registers

theorem byte_eq_half (rs : Registers) (b : Reg8) : rs.byte b = (rs.word b.wide).half b.half := by
  cases b <;> simp [byte, word, Reg8.wide, Reg8.half, Reg8.offset, Reg16.offset, Word.half]

theorem word_setByte_wide (rs : Registers) (b : Reg8) (value : UInt8) :
    (rs.setByte b value).word b.wide = (rs.word b.wide).withHalf value b.half := by
  cases b <;> simp [setByte, word, Reg8.wide, Reg8.half, Reg8.offset, Reg16.offset, Word.withHalf]

end Registers

inductive RegisterWrite where
  | byte (r : Reg8) (value : UInt8)
  | word (r : Reg16) (value : Word)

namespace RegisterWrite

/-- The register whose word is changed. -/
def register : RegisterWrite → Reg16
  | .byte r _ => r.wide
  | .word r _ => r

/-- What becomes of the word. -/
def change : RegisterWrite → Word → Word
  | .byte r value, w => w.withHalf value r.half
  | .word _ value, _ => value

/-- The map after the write. -/
def onto (w : RegisterWrite) (map : Reg16 → Word) : Reg16 → Word :=
  Function.update map w.register (w.change (map w.register))

/-- Whether two writes have no byte in common. -/
def Apart : RegisterWrite → RegisterWrite → Prop
  | .byte a _, .byte b _ => a ≠ b
  | v, w => v.register ≠ w.register

/-- Whether a write goes to every byte that another one goes to. -/
def Covers : RegisterWrite → RegisterWrite → Prop
  | .byte a _, .byte b _ => a = b
  | .byte .., .word .. => False
  | .word r _, v => r = v.register

variable {v w : RegisterWrite}

theorem Covers.register_eq (covers : w.Covers v) : w.register = v.register := by
  cases w with
  | word r value => exact covers
  | byte a value =>
    cases v with
    | byte b _ => exact congrArg Reg8.wide covers
    | word => exact covers.elim

theorem Covers.change (covers : w.Covers v) (old : Word) :
    w.change (v.change old) = w.change old := by
  cases w with
  | word r value => rfl
  | byte a value =>
    cases v with
    | byte b _ =>
      cases covers
      exact Word.withHalf_withHalf old _ value a.half
    | word => exact covers.elim

/-- Writes to one word that are apart go to its two halves. -/
theorem Apart.change (apart : v.Apart w) (same : v.register = w.register) (old : Word) :
    w.change (v.change old) = v.change (w.change old) := by
  cases v with
  | word => exact absurd same apart
  | byte a x =>
    cases w with
    | word => exact absurd same apart
    | byte b y =>
      have halves : a.half ≠ b.half := fun half => apart (Reg8.eq_of_half same half)
      exact Word.withHalf_comm old x y halves

theorem onto_onto (same : v.register = w.register) (map : Reg16 → Word) :
    w.onto (v.onto map) =
      Function.update map w.register (w.change (v.change (map w.register))) := by
  simp only [onto, same, Function.update_self, Function.update_idem]

theorem onto_comm (apart : v.Apart w) (map : Reg16 → Word) :
    w.onto (v.onto map) = v.onto (w.onto map) := by
  -- Writes that are apart may still go to one word, and then to its two halves.
  by_cases same : v.register = w.register
  · rw [onto_onto same, onto_onto same.symm, same, apart.change same]
  · have other : w.register ≠ v.register := Ne.symm same
    simp only [onto, Function.update_of_ne same, Function.update_of_ne other]
    exact Function.update_comm same _ _ map

theorem onto_of_covers (covers : w.Covers v) (map : Reg16 → Word) :
    w.onto (v.onto map) = w.onto map := by
  rw [onto_onto covers.register_eq.symm, covers.change, onto]

end RegisterWrite

namespace Registers

def write (rs : Registers) : RegisterWrite → Registers
  | .byte r value => rs.setByte r value
  | .word r value => rs.setWord r value

/-- The bank after some writes, one after another. -/
def perform (rs : Registers) (ws : List RegisterWrite) : Registers :=
  ws.foldl write rs

/-- The map after the same writes. -/
def reference (map : Reg16 → Word) (ws : List RegisterWrite) : Reg16 → Word :=
  ws.foldl (fun map w => w.onto map) map

theorem word_write (rs : Registers) (w : RegisterWrite) : (rs.write w).word = w.onto rs.word := by
  funext r
  by_cases here : r = w.register
  · subst here
    rw [RegisterWrite.onto, Function.update_self]
    cases w with
    | byte b value => exact rs.word_setByte_wide b value
    | word r value => exact rs.word_setWord_self r value
  · rw [RegisterWrite.onto, Function.update_of_ne here]
    cases w with
    | byte b value => exact rs.word_setByte_of_ne (Ne.symm here) value
    | word s value => exact rs.word_setWord_of_ne (Ne.symm here) value

theorem word_perform (rs : Registers) (ws : List RegisterWrite) :
    (rs.perform ws).word = reference rs.word ws := by
  induction ws generalizing rs with
  | nil => rfl
  | cons w ws ih =>
    simp only [perform, reference, List.foldl_cons] at ih ⊢
    rw [ih, word_write]

theorem write_comm (rs : Registers) {v w : RegisterWrite} (apart : v.Apart w) :
    (rs.write v).write w = (rs.write w).write v := by
  apply ext_word
  intro r
  simp only [word_write, RegisterWrite.onto_comm apart]

theorem write_of_covers (rs : Registers) {v w : RegisterWrite} (covers : w.Covers v) :
    (rs.write v).write w = rs.write w := by
  apply ext_word
  intro r
  simp only [word_write, RegisterWrite.onto_of_covers covers]

/-- The bank is fourteen words. After any writes each word register shows what they have made of the
map of words that was there before, and each byte register shows its half of such a word. Banks with
the same words are the same, writes that have no byte in common commute, and a write leaves nothing
of an earlier one to the same bytes. -/
theorem bank_maps_words (rs : Registers) (ws : List RegisterWrite) :
    (∀ r, (rs.perform ws).word r = reference rs.word ws r) ∧
      (∀ b, (rs.perform ws).byte b = (reference rs.word ws b.wide).half b.half) ∧
      (∀ other : Registers, (∀ r, other.word r = rs.word r) → other = rs) ∧
      (∀ v w : RegisterWrite, v.Apart w → (rs.write v).write w = (rs.write w).write v) ∧
      ∀ v w : RegisterWrite, w.Covers v → (rs.write v).write w = rs.write w := by
  refine ⟨?_, ?_, ?_, ?_, ?_⟩
  · intro r
    rw [word_perform]
  · intro b
    rw [byte_eq_half, word_perform]
  · intro other same
    exact ext_word same
  · intro v w apart
    exact rs.write_comm apart
  · intro v w covers
    exact rs.write_of_covers covers

/-- Both halves of a word, one of them twice, and the halves of a word that was written at once. -/
theorem bank_maps_words_halves :
    ∃ rs, zero.perform [.byte .al 0x34, .byte .ah 0x12, .byte .al 0xFF, .word .dx 0xABCD] = rs ∧
      rs.word .ax = 0x12FF ∧ rs.word .cx = 0 ∧ rs.byte .dl = 0xCD ∧ rs.byte .dh = 0xAB ∧
      (zero.setWord .dx 0xABCD).setWord .ax 0x12FF = rs ∧
      (rs.setByte .al 1).setByte .ah 2 = (rs.setByte .ah 2).setByte .al 1 ∧
      (rs.setByte .dl 3).setWord .dx 4 = rs.setWord .dx 4 := by
  obtain ⟨words, bytes, -⟩ := bank_maps_words zero
    [.byte .al 0x34, .byte .ah 0x12, .byte .al 0xFF, .word .dx 0xABCD]
  obtain ⟨-, -, same, apart, covers⟩ := bank_maps_words
    (zero.perform [.byte .al 0x34, .byte .ah 0x12, .byte .al 0xFF, .word .dx 0xABCD]) []
  refine ⟨_, rfl, (words .ax).trans (by decide), (words .cx).trans (by decide),
    (bytes .dl).trans (by decide), (bytes .dh).trans (by decide), same _ ?_,
    apart (.byte .al 1) (.byte .ah 2) (by decide : Reg8.al ≠ Reg8.ah),
    covers (.byte .dl 3) (.word .dx 4) (rfl : Reg16.dx = Reg16.dx)⟩
  intro r
  cases r <;> decide

end Registers

end Micro86
