import Mathlib.Data.List.Induction
import Mathlib.Data.List.Infix
import Micro86.Proofs.CallStack

/-!
# Pushes and pops

The stack may be used from any SP, an odd one too, as long as SP stays a word and no word is popped
that was not pushed before. Then a pop gives the value of the last push that has not been popped,
and only the bytes between the lowest and the highest SP may change: `stack_is_lifo`. `Holds` is
what every use keeps.
-/

namespace Micro86

inductive StackUse where
  | push (value : Word)
  | pop
  deriving DecidableEq, Repr

namespace StackUse

def pushes (us : List StackUse) : Nat :=
  us.countP (· ≠ .pop)

def pops (us : List StackUse) : Nat :=
  us.count .pop

/-- SP after `us` if it was `sp` before. -/
def height (sp : Word) (us : List StackUse) : Nat :=
  sp.toNat + 2 * (pushes us - pops us)

/-- The values on the stack after a use. -/
def onto (values : List Word) : StackUse → List Word
  | .push value => value :: values
  | .pop => values.tail

/-- The values of the pushes that no pop has matched, the latest first. -/
def unmatched (us : List StackUse) : List Word :=
  us.foldl onto []

/-- Whether there are at no moment more pops than pushes, and SP never has to exceed `top`. -/
structure Balanced (sp : Word) (top : Nat) (us : List StackUse) : Prop where
  matched : ∀ part ∈ us.inits, pops part ≤ pushes part
  room : ∀ part ∈ us.inits, height sp part ≤ top

variable {sp : Word} {top : Nat} {us : List StackUse}

theorem Balanced.part {part : List StackUse} (balanced : Balanced sp top us)
    (mem : part ∈ us.inits) :
    Balanced sp top part := by
  have within (first : List StackUse) (mem' : first ∈ part.inits) : first ∈ us.inits := by
    rw [List.mem_inits] at mem mem' ⊢
    exact mem'.trans mem
  constructor
  · intro first mem'
    exact balanced.matched first (within first mem')
  · intro first mem'
    exact balanced.room first (within first mem')

theorem mem_inits_self (us : List StackUse) : us ∈ us.inits :=
  (List.mem_inits us us).mpr List.prefix_rfl

theorem mem_inits_append (us : List StackUse) (u : StackUse) : us ∈ (us ++ [u]).inits :=
  (List.mem_inits us _).mpr (List.prefix_append us [u])

theorem pushes_append (us : List StackUse) (value : Word) :
    pushes (us ++ [.push value]) = pushes us + 1 ∧ pops (us ++ [.push value]) = pops us := by
  simp [pushes, pops]

theorem pops_append (us : List StackUse) :
    pushes (us ++ [.pop]) = pushes us ∧ pops (us ++ [.pop]) = pops us + 1 := by
  simp [pushes, pops]

theorem unmatched_append (us : List StackUse) (u : StackUse) :
    unmatched (us ++ [u]) = onto (unmatched us) u := by
  simp [unmatched]

theorem length_unmatched (balanced : Balanced sp top us) :
    (unmatched us).length = pushes us - pops us := by
  -- Uses are taken off at the end: what comes before is balanced too, what comes after the first
  -- may not be.
  induction us using List.reverseRecOn with
  | nil => rfl
  | append_singleton us u ih =>
    have before := balanced.part (mem_inits_append us u)
    have matched := before.matched us (mem_inits_self us)
    rw [unmatched_append]
    cases u with
    | push value =>
      obtain ⟨more, same⟩ := pushes_append us value
      rw [onto, List.length_cons, ih before, more, same]
      omega
    | pop =>
      obtain ⟨same, more⟩ := pops_append us
      rw [onto, List.length_tail, ih before, same, more]
      omega

end StackUse

namespace Machine

open StackUse

variable {κ : Type}

/-- The machine after a use of its stack, whatever this answers. -/
def afterUse (m : Machine κ) : StackUse → Machine κ
  | .push value => (m.push value).2
  | .pop => m.pop.2

/-- The machine after some uses of its stack. -/
def used (m : Machine κ) (us : List StackUse) : Machine κ :=
  us.foldl afterUse m

/-- What `m` has become with `values` pushed on its stack, where SP never was more than `top`. -/
structure Holds (m : Machine κ) (top : Nat) (values : List Word) (a : Machine κ) : Prop where
  sp : (a.registers.word .sp).toNat = (m.registers.word .sp).toNat + 2 * values.length
  saved : ∀ i (h : i < values.length), a.memory.read16 (entry (a.registers.word .sp) i) =
    .ok values[i]
  registers : ∀ r, r ≠ .sp → a.registers.word r = m.registers.word r
  rest : { a with registers := m.registers, memory := m.memory } = m
  above : ∀ i, memorySize - (m.registers.word .sp).toNat ≤ i →
    a.memory.cells[i]? = m.memory.cells[i]?
  below : ∀ i, i < memorySize - top → a.memory.cells[i]? = m.memory.cells[i]?

variable {m a : Machine κ} {top : Nat} {values : List Word}

theorem holds_self (m : Machine κ) (top : Nat) : Holds m top [] m := by
  constructor <;> simp

theorem Holds.push (h : Holds m top values a) (value : Word)
    (room : (a.registers.word .sp).toNat + 2 ≤ top) (word : top ≤ 65535) :
    ∃ b, a.push value = (.ok (), b) ∧ Holds m top (value :: values) b := by
  have lt : (a.registers.word .sp).toNat < 0xFFFE := by omega
  have grown := toNat_grown lt
  have pushed := pushed?_eq_some_iff.mpr ⟨lt, rfl⟩
  obtain ⟨memory, written⟩ := write16_slot_ok pushed a.memory value
  have place := toNat_slot (a.registers.word .sp + 2)
  have size : memorySize = 0x10000 := rfl
  have count := h.sp
  refine ⟨_, push_ok_iff.mpr ⟨_, memory, pushed, written, rfl⟩, ?_, ?_, ?_, h.rest, ?_, ?_⟩
  · simp only [Registers.word_setWord_self, grown, count, List.length_cons]
    omega
  · intro i lt'
    simp only [Registers.word_setWord_self]
    cases i with
    | zero =>
      rw [entry_zero]
      exact Memory.read16_of_write16 written
    | succ i =>
      simp only [List.length_cons, Nat.add_lt_add_iff_right] at lt'
      rw [List.getElem_cons_succ, ← h.saved i lt']
      exact read16_entry_succ lt written (by omega)
  · intro r other
    rw [Registers.word_setWord_of_ne _ other.symm]
    exact h.registers r other
  · intro i high
    rw [← h.above i high]
    exact Memory.getElem?_of_write16 written (by omega) (by omega)
  · intro i low
    rw [← h.below i low]
    exact Memory.getElem?_of_write16 written (by omega) (by omega)

theorem Holds.pop {value : Word} (h : Holds m top (value :: values) a) :
    ∃ b, a.pop = (.ok value, b) ∧ Holds m top values b := by
  have count := h.sp
  rw [List.length_cons] at count
  have full : a.registers.word .sp ≠ 0 := by
    intro empty
    have none : (a.registers.word .sp).toNat = 0 := congrArg UInt16.toNat empty
    omega
  have read := h.saved 0 (by simp)
  rw [entry_zero] at read
  have found := top_eq_ok_iff.mpr ⟨full, read⟩
  have shrunk : (a.registers.word .sp - 2).toNat = (a.registers.word .sp).toNat - 2 :=
    toNat_shrunk (by omega)
  have pop : a.pop = (.ok value, a.setWord .sp (a.registers.word .sp - 2)) := by
    rw [Machine.pop, found]
    rfl
  refine ⟨_, pop, ?_, ?_, ?_, h.rest, h.above, h.below⟩
  · simp only [setWord, Registers.word_setWord_self, shrunk]
    omega
  · intro i lt
    have saved := h.saved (i + 1) (Nat.succ_lt_succ lt)
    simp only [setWord, Registers.word_setWord_self]
    rw [entry_pred (by omega)]
    exact saved
  · intro r other
    rw [setWord, Registers.word_setWord_of_ne _ other.symm]
    exact h.registers r other

/-- Whether a use succeeds and leaves `b`, and a pop gives the first of `values`. -/
def Answers (values : List Word) (a b : Machine κ) : StackUse → Prop
  | .push value => a.push value = (.ok (), b)
  | .pop => ∃ value, values.head? = some value ∧ a.pop = (.ok value, b)

theorem Holds.afterUse (h : Holds m top values a) (word : top ≤ 65535) {u : StackUse}
    (reach : (m.registers.word .sp).toNat + 2 * (onto values u).length ≤ top)
    (some : u = .pop → values ≠ []) :
    Answers values a (a.afterUse u) u ∧ Holds m top (onto values u) (a.afterUse u) := by
  cases u with
  | push value =>
    have count := h.sp
    rw [onto, List.length_cons] at reach
    obtain ⟨b, push, holds⟩ := h.push value (by omega) word
    have after : a.afterUse (.push value) = b := congrArg Prod.snd push
    rw [after]
    exact ⟨push, holds⟩
  | pop =>
    cases values with
    | nil => exact absurd rfl (some rfl)
    | cons value values =>
      obtain ⟨b, pop, holds⟩ := h.pop
      have after : a.afterUse .pop = b := congrArg Prod.snd pop
      rw [after]
      exact ⟨⟨value, rfl, pop⟩, holds⟩

theorem used_append (m : Machine κ) (us : List StackUse) (u : StackUse) :
    m.used (us ++ [u]) = (m.used us).afterUse u := by
  simp [used]

theorem unmatched_ne_nil {sp : Word} {us : List StackUse}
    (balanced : Balanced sp top (us ++ [.pop])) :
    unmatched us ≠ [] := by
  intro none
  have matched := balanced.matched _ (mem_inits_self _)
  have count := length_unmatched (balanced.part (mem_inits_append us .pop))
  obtain ⟨same, more⟩ := pops_append us
  rw [none, List.length_nil] at count
  omega

theorem Holds.afterBalanced {us : List StackUse} {u : StackUse} (h : Holds m top (unmatched us) a)
    (balanced : Balanced (m.registers.word .sp) top (us ++ [u])) (word : top ≤ 65535) :
    Answers (unmatched us) a (a.afterUse u) u ∧
      Holds m top (unmatched (us ++ [u])) (a.afterUse u) := by
  have count := length_unmatched balanced
  have reach := balanced.room _ (mem_inits_self _)
  rw [unmatched_append] at count ⊢
  rw [height, ← count] at reach
  apply h.afterUse word reach
  rintro rfl
  exact unmatched_ne_nil balanced

theorem holds_used {us : List StackUse} (balanced : Balanced (m.registers.word .sp) top us)
    (word : top ≤ 65535) : Holds m top (unmatched us) (m.used us) := by
  induction us using List.reverseRecOn with
  | nil => exact holds_self m top
  | append_singleton us u ih =>
    have holds := ih (balanced.part (mem_inits_append us u))
    rw [used_append]
    exact (holds.afterBalanced balanced word).2

theorem sp_used {us : List StackUse} (balanced : Balanced (m.registers.word .sp) top us)
    (word : top ≤ 65535) :
    ((m.used us).registers.word .sp).toNat = height (m.registers.word .sp) us := by
  rw [(holds_used balanced word).sp, length_unmatched balanced, height]

/-- The values that SP has, from the first use to the last. -/
def levels (m : Machine κ) (us : List StackUse) : List Nat :=
  us.inits.map fun part => ((m.used part).registers.word .sp).toNat

theorem exists_highest (m : Machine κ) (us : List StackUse) :
    ∃ highest, (m.levels us).max? = some highest := by
  have here : ((m.used us).registers.word .sp).toNat ∈ m.levels us :=
    List.mem_map_of_mem (mem_inits_self us)
  cases found : (m.levels us).max? with
  | some highest => exact ⟨highest, rfl⟩
  | none =>
    rw [List.max?_eq_none_iff] at found
    rw [found] at here
    cases here

/-- Uses are balanced below the highest level that SP reaches. -/
theorem balanced_highest {us : List StackUse} (balanced : Balanced (m.registers.word .sp) top us)
    (word : top ≤ 65535) {highest : Nat} (most : (m.levels us).max? = some highest) :
    highest ≤ 65535 ∧ Balanced (m.registers.word .sp) highest us := by
  obtain ⟨reached, le⟩ := List.max?_eq_some_iff.mp most
  refine ⟨?_, balanced.matched, ?_⟩
  · obtain ⟨part, -, rfl⟩ := List.mem_map.mp reached
    exact Nat.le_of_lt_succ (UInt16.toNat_lt _)
  · intro part mem
    rw [← sp_used (balanced.part mem) word]
    exact le _ (List.mem_map_of_mem mem)

/-- What is left of a machine when its stack has been used. -/
structure Keeps (m : Machine κ) (us : List StackUse) (a : Machine κ) : Prop where
  sp : (a.registers.word .sp).toNat = (m.registers.word .sp).toNat + 2 * (pushes us - pops us)
  registers : ∀ r, r ≠ .sp → a.registers.word r = m.registers.word r
  rest : { a with registers := m.registers, memory := m.memory } = m
  above : ∀ i, memorySize - (m.registers.word .sp).toNat ≤ i →
    a.memory.cells[i]? = m.memory.cells[i]?
  below : ∃ highest, (m.levels us).max? = some highest ∧
    ∀ i, i < memorySize - highest → a.memory.cells[i]? = m.memory.cells[i]?

theorem keeps_used {us : List StackUse} (balanced : Balanced (m.registers.word .sp) 65535 us) :
    Keeps m us (m.used us) := by
  -- `holds_used` is used twice: SP is only known to reach `highest` once all uses are known to
  -- succeed.
  have holds := holds_used balanced (Nat.le_refl _)
  obtain ⟨highest, most⟩ := m.exists_highest us
  obtain ⟨word, lower⟩ := balanced_highest balanced (Nat.le_refl _) most
  refine ⟨sp_used balanced (Nat.le_refl _), holds.registers, holds.rest, holds.above, highest, most,
    ?_⟩
  exact (holds_used lower word).below

/-- The stack is last in, first out, from any SP and on any memory. Uses that pop no more than was
pushed and keep SP a word all succeed, and each pop gives the value of the latest push that has not
been matched. At each moment SP tells how many there are, and nothing but SP and the bytes between
its first value and its highest has changed. A push that would make SP exceed a word fails and
changes nothing. -/
theorem stack_is_lifo (m : Machine κ) {us : List StackUse}
    (balanced : Balanced (m.registers.word .sp) 65535 us) :
    (∀ before u, before ++ [u] ∈ us.inits →
      Answers (unmatched before) (m.used before) (m.used (before ++ [u])) u) ∧
      (∀ part ∈ us.inits, Keeps m part (m.used part)) ∧
      ∀ value, 65535 < height (m.registers.word .sp) us + 2 →
        (m.used us).push value = (.error .stackOverflow, m.used us) := by
  refine ⟨?_, ?_, ?_⟩
  · intro before u mem
    have whole := balanced.part mem
    have holds := holds_used (whole.part (mem_inits_append before u)) (Nat.le_refl _)
    rw [used_append]
    exact (holds.afterBalanced whole (Nat.le_refl _)).1
  · intro part mem
    exact keeps_used (balanced.part mem)
  · intro value beyond
    have sp := sp_used balanced (Nat.le_refl _)
    have most : 0xFFFE ≤ ((m.used us).registers.word .sp).toNat := by omega
    exact push_error_iff.mpr ⟨pushed?_eq_none_iff.mpr most, rfl, rfl⟩

/-- Two words on an odd SP, popped in the opposite order, and one more than fits. -/
theorem stack_is_lifo_odd :
    ∃ m : Machine Buffer, m.registers.word .sp = 0xFFFB ∧
      (m.used [.push 0x1234, .push 0xBEEF]).pop.1 = .ok 0xBEEF ∧
      (m.used [.push 0x1234, .push 0xBEEF, .pop]).pop.1 = .ok 0x1234 ∧
      ((m.used [.push 0x1234, .push 0xBEEF]).registers.word .sp).toNat = 0xFFFF ∧
      (m.used [.push 0x1234, .push 0xBEEF]).memory.cells[5]? = m.memory.cells[5]? ∧
      ((m.used [.push 0x1234, .push 0xBEEF]).push 7).1 = .error .stackOverflow := by
  have sp : ((start (Buffer.ofInput [])).setWord .sp 0xFFFB).registers.word .sp = 0xFFFB :=
    Registers.word_setWord_self _ _ _
  have back : Balanced 0xFFFB 65535 [.push 0x1234, .push 0xBEEF, .pop, .pop] :=
    ⟨by decide, by decide⟩
  have full : Balanced 0xFFFB 65535 [.push 0x1234, .push 0xBEEF] := ⟨by decide, by decide⟩
  rw [← sp] at back full
  obtain ⟨answers, -, -⟩ := stack_is_lifo _ back
  obtain ⟨-, keeps, overflows⟩ := stack_is_lifo _ full
  obtain ⟨first, latest, pop⟩ := answers [.push 0x1234, .push 0xBEEF] .pop (by decide)
  obtain ⟨second, next, pop'⟩ := answers [.push 0x1234, .push 0xBEEF, .pop] .pop (by decide)
  cases (latest : some 0xBEEF = some first)
  cases (next : some 0x1234 = some second)
  have kept := keeps [.push 0x1234, .push 0xBEEF] (by decide)
  refine ⟨_, sp, congrArg Prod.fst pop, congrArg Prod.fst pop', kept.sp.trans ?_, kept.above 5 ?_,
    congrArg Prod.fst (overflows 7 ?_)⟩
  · rw [sp]
    decide
  · rw [sp]
    decide
  · rw [sp]
    decide

end Machine

end Micro86
