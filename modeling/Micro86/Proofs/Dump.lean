import Mathlib.Algebra.Group.Nat.Defs
import Mathlib.Data.List.Basic
import Micro86.Proofs.Registers

/-!
# Texts of the register bank

Both texts of a bank give its words in four digits, each behind the name of its register, and differ
in what stands around these. A `Form` says what that is, and `Form.read?` reads the texts of a form
and no others. So a bank can be told from either text: `dump_loses_nothing`.
-/

namespace Micro86

namespace Hex

/-- The last digit is that of the remainder, and the others are those of the quotient. -/
theorem digits_succ {width : Nat} (wide : 0 < width) (n : Nat) :
    digits (width + 1) n = digits width (n / 16) ++ [(n % 16).digitChar] := by
  unfold digits
  by_cases small : n < 16
  · have zeros : List.replicate width '0' = List.replicate (width - 1) '0' ++ ['0'] := by
      rw [← List.replicate_succ', Nat.sub_add_cancel wide]
    rw [Nat.toDigits_of_lt_base small, Nat.div_eq_of_lt small, Nat.mod_eq_of_lt small,
      Nat.toDigits_zero]
    simp [List.leftpad, zeros]
  · rw [Nat.toDigits_eq_if (by decide), if_neg small]
    simp [List.leftpad]

theorem digits_one {n : Nat} (small : n < 16) : digits 1 n = [n.digitChar] := by
  rw [digits, Nat.toDigits_of_lt_base small]
  rfl

end Hex

namespace Word

/-- The value of the digit that has `place` more behind it. -/
def nibble (w : Word) (place : Nat) : Fin 16 :=
  ⟨w.toNat / 16 ^ place % 16, Nat.mod_lt _ (by decide)⟩

def ofNibbles (a b c d : Fin 16) : Word :=
  (4096 * a.val + 256 * b.val + 16 * c.val + d.val).toUInt16

theorem toNat_ofNibbles (a b c d : Fin 16) :
    (ofNibbles a b c d).toNat = 4096 * a.val + 256 * b.val + 16 * c.val + d.val := by
  simp only [ofNibbles, Nat.toUInt16_eq, UInt16.toNat_ofNat']
  omega

theorem ofNibbles_nibble (w : Word) :
    ofNibbles (w.nibble 3) (w.nibble 2) (w.nibble 1) (w.nibble 0) = w := by
  have := w.toNat_lt
  apply UInt16.toNat_inj.mp
  rw [toNat_ofNibbles]
  simp only [nibble]
  omega

theorem nibble_ofNibbles (a b c d : Fin 16) :
    [3, 2, 1, 0].map (ofNibbles a b c d).nibble = [a, b, c, d] := by
  have value := toNat_ofNibbles a b c d
  simp only [nibble, value, List.map_cons, List.map_nil, List.cons.injEq, Fin.ext_iff, and_true]
  omega

theorem digits_toNat (w : Word) :
    Hex.digits 4 w.toNat = [3, 2, 1, 0].map fun place => (w.nibble place).val.digitChar := by
  have := w.toNat_lt
  rw [Hex.digits_succ (by decide), Hex.digits_succ (by decide), Hex.digits_succ (by decide),
    Hex.digits_one (by omega)]
  have first : w.toNat / 16 / 16 / 16 = w.toNat / 16 ^ 3 % 16 := by omega
  have second : w.toNat / 16 / 16 % 16 = w.toNat / 16 ^ 2 % 16 := by omega
  rw [first, second]
  simp [nibble]

end Word

/-- How a bank is written as a text. -/
structure Form where
  digit : Fin 16 → Char
  opening : String
  between : String
  /-- What stands between the name of a register and its word. -/
  mark : String
  closing : String
  distinct : ∀ a b, digit a = digit b → a = b

namespace Form

variable (f : Form)

def numeral (w : Word) : List Char :=
  [3, 2, 1, 0].map fun place => f.digit (w.nibble place)

/-- All that stands between the word before and that of `r`. -/
def label (r : Reg16) : List Char :=
  (if r = .ax then f.opening else f.between).toList ++ r.name.toList ++ f.mark.toList

/-- The words of some registers, each behind its label. -/
def fields (regs : List Reg16) (rs : Registers) : List Char :=
  regs.flatMap fun r => f.label r ++ f.numeral (rs.word r)

def text (rs : Registers) : String :=
  String.ofList (f.fields Reg16.all rs ++ f.closing.toList)

def digit? (c : Char) : Option (Fin 16) :=
  (List.finRange 16).find? fun d => f.digit d = c

/-- Reads a word, and gives what comes after it. -/
def word? : List Char → Option (Word × List Char)
  | a :: b :: c :: d :: cs => do
    let a ← f.digit? a
    let b ← f.digit? b
    let c ← f.digit? c
    let d ← f.digit? d
    return (Word.ofNibbles a b c d, cs)
  | _ => none

/-- Reads the words of some registers into a bank. -/
def fields? : List Reg16 → Registers → List Char → Option (Registers × List Char)
  | [], rs, cs => some (rs, cs)
  | r :: regs, rs, cs => do
    let cs ← cs.dropPrefix? (f.label r)
    let (w, cs) ← f.word? cs
    fields? regs (rs.setWord r w) cs

/-- Reads a whole text. -/
def read? (text : String) : Option Registers := do
  let (rs, cs) ← f.fields? Reg16.all .zero text.toList
  if cs = f.closing.toList then some rs else none

theorem digit_of_digit? {c : Char} {d : Fin 16} (found : f.digit? c = some d) : f.digit d = c := by
  have here := List.find?_some found
  exact of_decide_eq_true here

theorem digit?_digit (d : Fin 16) : f.digit? (f.digit d) = some d := by
  cases found : f.digit? (f.digit d) with
  | some e => exact congrArg some (f.distinct e d (f.digit_of_digit? found))
  | none =>
    unfold digit? at found
    have missed := List.find?_eq_none.mp found d (List.mem_finRange d)
    exact absurd (decide_eq_true rfl) missed

theorem word?_eq_some_iff {cs rest : List Char} {w : Word} :
    f.word? cs = some (w, rest) ↔ cs = f.numeral w ++ rest := by
  constructor
  · intro read
    unfold word? at read
    split at read
    · simp only [Option.bind_eq_bind, Option.bind_eq_some_iff, Option.pure_def, Option.some.injEq,
        Prod.mk.injEq] at read
      obtain ⟨a, ha, b, hb, c, hc, d, hd, rfl, rfl⟩ := read
      have digits := congrArg (List.map f.digit) (Word.nibble_ofNibbles a b c d)
      rw [List.map_map] at digits
      show _ = List.map (f.digit ∘ _) _ ++ _
      rw [digits]
      simp [f.digit_of_digit? ha, f.digit_of_digit? hb, f.digit_of_digit? hc, f.digit_of_digit? hd]
    · cases read
  · rintro rfl
    simp [numeral, word?, digit?_digit, Word.ofNibbles_nibble]

theorem fields?_eq_some_iff {regs : List Reg16} (once : regs.Nodup) {rs out : Registers}
    {cs rest : List Char} :
    f.fields? regs rs cs = some (out, rest) ↔
      cs = f.fields regs out ++ rest ∧ ∀ r, r ∉ regs → out.word r = rs.word r := by
  -- Each word is read into the bank that the words before it have left, and stays, as no register
  -- comes twice.
  induction regs generalizing rs cs with
  | nil =>
    simp only [fields?, fields, Option.some.injEq, Prod.mk.injEq]
    constructor
    · rintro ⟨rfl, rfl⟩
      exact ⟨rfl, fun _ _ => rfl⟩
    · rintro ⟨rfl, same⟩
      exact ⟨Registers.ext_word fun r => (same r List.not_mem_nil).symm, rfl⟩
  | cons r regs ih =>
    obtain ⟨absent, once⟩ := List.nodup_cons.mp once
    simp only [fields?, Option.bind_eq_bind, Option.bind_eq_some_iff, Prod.exists,
      word?_eq_some_iff, ih once,
      List.dropPrefix?_eq_some_iff, beq_iff_eq]
    constructor
    · rintro ⟨_, ⟨_, rfl, rfl⟩, w, _, rfl, rfl, same⟩
      have here : out.word r = w := by
        rw [same r absent, Registers.word_setWord_self]
      refine ⟨?_, ?_⟩
      · simp [fields, here]
      · intro s other
        rw [List.mem_cons, not_or] at other
        rw [same s other.2, Registers.word_setWord_of_ne _ (Ne.symm other.1)]
    · rintro ⟨rfl, same⟩
      refine ⟨_, ⟨_, ?_, rfl⟩, out.word r, _, rfl, rfl, ?_⟩
      · simp [fields]
      · intro s other
        by_cases here : s = r
        · rw [here, Registers.word_setWord_self]
        · have absent : s ∉ r :: regs := List.not_mem_cons_of_ne_of_not_mem here other
          rw [same s absent, Registers.word_setWord_of_ne _ (Ne.symm here)]

theorem read?_eq_some_iff {text : String} {rs : Registers} :
    f.read? text = some rs ↔ text = f.text rs := by
  have once : Reg16.all.Nodup := by decide
  simp only [read?, Option.bind_eq_bind, Option.bind_eq_some_iff, Prod.exists,
    f.fields?_eq_some_iff once, Option.ite_none_right_eq_some, Option.some.injEq]
  constructor
  · rintro ⟨_, _, ⟨whole, -⟩, rfl, rfl⟩
    rw [Form.text, ← whole, String.ofList_toList]
  · rintro rfl
    refine ⟨rs, _, ⟨String.toList_ofList, ?_⟩, rfl, rfl⟩
    intro r absent
    exact absurd r.mem_all absent

theorem text_injective {rs other : Registers} (same : f.text rs = f.text other) : rs = other := by
  have read := f.read?_eq_some_iff.mpr same.symm
  rw [f.read?_eq_some_iff.mpr rfl] at read
  exact (Option.some.inj read).symm

theorem text_eq (rs : Registers) :
    f.text rs = f.opening ++ f.between.intercalate (Reg16.all.map fun r =>
      r.name ++ f.mark ++ String.ofList (f.numeral (rs.word r))) ++ f.closing := by
  apply String.toList_inj.mp
  simp [text, fields, label, Reg16.all]

end Form

namespace Registers

/-- The form of `dump`. -/
def dumpForm : Form where
  digit d := d.val.digitChar.toUpper
  opening := ""
  between := " "
  mark := "="
  closing := ""
  distinct := by decide

/-- The form of `describe`. -/
def describeForm : Form where
  digit d := d.val.digitChar
  opening := "\x7b"
  between := ", "
  mark := ": 0x"
  closing := "\x7d"
  distinct := by decide

theorem upper_toNat (w : Word) : Hex.upper 4 w.toNat = String.ofList (dumpForm.numeral w) := by
  rw [Hex.upper, Word.digits_toNat, List.map_map]
  rfl

theorem lower_toNat (w : Word) : Hex.lower 4 w.toNat = String.ofList (describeForm.numeral w) := by
  rw [Hex.lower, Word.digits_toNat]
  rfl

theorem dump_eq (rs : Registers) : rs.dump = dumpForm.text rs := by
  have empty : dumpForm.opening = "" ∧ dumpForm.closing = "" := ⟨rfl, rfl⟩
  rw [Form.text_eq, empty.1, empty.2, String.empty_append, String.append_empty]
  simp only [dump, upper_toNat]
  rfl

theorem describe_eq (rs : Registers) : rs.describe = describeForm.text rs := by
  have entry (r : Reg16) : s!"{r.name}: {Hex.marked 4 (rs.word r).toNat}" =
      r.name ++ describeForm.mark ++ String.ofList (describeForm.numeral (rs.word r)) := by
    have mark : describeForm.mark = ": " ++ "0x" := rfl
    show r.name ++ ": " ++ ("0x" ++ Hex.lower 4 (rs.word r).toNat) = _
    rw [lower_toNat, mark]
    simp only [String.append_assoc]
  rw [Form.text_eq]
  simp only [describe, entries, entry]
  rfl

/-- The bank that has been dumped. -/
def ofDump? (text : String) : Option Registers :=
  dumpForm.read? text

theorem digit_mem (d : Fin 16) : dumpForm.digit d ∈ "0123456789ABCDEF".toList := by
  revert d
  decide

/-- Banks with the same dump are the same, and so are banks with the same description. A dump is
read back, and nothing else is read as the same bank. It has one field for each register, in the
order in which their words lie in the bank: its name and its word in four digits. -/
theorem dump_loses_nothing (rs : Registers) :
    (∀ other : Registers, other.dump = rs.dump → other = rs) ∧
      (∀ other : Registers, other.describe = rs.describe → other = rs) ∧
      (∀ text, ofDump? text = some rs ↔ text = rs.dump) ∧
      Reg16.all.map Reg16.offset = (List.range 14).map (2 * ·) ∧
      ∃ digits : Reg16 → List Char,
        rs.dump =
          " ".intercalate (Reg16.all.map fun r => r.name ++ "=" ++ String.ofList (digits r)) ∧
        ∀ r, (digits r).length = 4 ∧ ∀ c ∈ digits r, c ∈ "0123456789ABCDEF".toList := by
  refine ⟨?_, ?_, ?_, by decide, fun r => dumpForm.numeral (rs.word r), ?_, ?_⟩
  · intro other same
    rw [dump_eq, dump_eq] at same
    exact dumpForm.text_injective same
  · intro other same
    rw [describe_eq, describe_eq] at same
    exact describeForm.text_injective same
  · intro text
    rw [dump_eq]
    exact dumpForm.read?_eq_some_iff
  · simp only [dump, upper_toNat]
    rfl
  · intro r
    refine ⟨rfl, ?_⟩
    intro c mem
    obtain ⟨place, -, rfl⟩ := List.mem_map.mp mem
    exact digit_mem _

/-- The words of a dump, read back from it, and the same text from a bank that was
filled in another order. -/
theorem dump_loses_nothing_three_words :
    ∃ rs, ofDump? ("AX=4C00 BX=0000 CX=0000 DX=010B SI=0000 DI=0000 BP=0000 SP=0000 IP=0110 CS=0000 "
        ++ "DS=0000 ES=0000 SS=0000 FLAGS=0000") = some rs ∧
      rs.byte .ah = 0x4C ∧ rs.word .dx = 0x010B ∧ rs.word .ip = 0x0110 ∧ rs.word .flags = 0 ∧
      ((zero.setWord .dx 0x010B).setByte .ah 0x4C).setWord .ip 0x0110 = rs := by
  obtain ⟨same, -, read, -⟩ :=
    dump_loses_nothing (((zero.setWord .ip 0x0110).setByte .ah 0x4C).setWord .dx 0x010B)
  refine ⟨_, (read _).mpr (by decide), by decide, by decide, by decide, by decide,
    same _ (by decide)⟩

end Registers

end Micro86
