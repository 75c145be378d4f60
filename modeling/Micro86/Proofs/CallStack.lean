import Micro86.Proofs.History
import Micro86.Proofs.Loading
import Micro86.Proofs.Stack

/-!
# Calls and returns

The words on the stack are the return addresses of the calls that have not returned yet, in every
run and whatever the program does: `stack_holds_returns`.
-/

namespace Micro86.Machine

variable {κ : Type}

/-- The return addresses once `m` has executed its instruction, the innermost first. -/
def account (returns : List Nat) (m : Machine κ) : List Nat :=
  match m.instruction with
  | .ok (.call _) => (m.ip.toNat + 3) % memorySize :: returns
  | .ok .ret => returns.tail
  | _ => returns

/-- The return addresses of the calls in a history that have not returned. -/
def returns (history : List (Machine κ)) : List Nat :=
  history.foldl account []

/-- The address of the word `i` places below the top of the stack. -/
def entry (sp : Word) (i : Nat) : Address :=
  slot sp + 2 * i.toUInt64

/-- The stack of `m` holds `returns`. -/
structure Stacked (m : Machine κ) (returns : List Nat) : Prop where
  sp : (m.registers.word .sp).toNat = 2 * returns.length
  saved : ∀ i (h : i < returns.length), ∃ offset,
    m.memory.read16 (entry (m.registers.word .sp) i) = .ok offset ∧
    (programStart.toNat + offset.toNat) % memorySize = returns[i]

theorem Stacked.length_le {m : Machine κ} {returns : List Nat} (h : Stacked m returns) :
    returns.length ≤ 32767 := by
  have := (m.registers.word .sp).toNat_lt
  have := h.sp
  omega

theorem Stacked.of_same {m m' : Machine κ} {returns : List Nat} (h : Stacked m returns)
    (memory : m'.memory = m.memory) (sp : m'.registers.word .sp = m.registers.word .sp) :
    Stacked m' returns := by
  refine ⟨sp ▸ h.sp, ?_⟩
  rw [memory, sp]
  exact h.saved

theorem Stacked.arrive {m : Machine κ} {returns : List Nat} (h : Stacked m returns) (ip : Address) :
    Stacked (m.arrive ip) returns :=
  h.of_same rfl (m.registers.word_setWord_of_ne (by decide) _)

theorem entry_zero (sp : Word) : entry sp 0 = slot sp := by
  simp [entry]

theorem toNat_entry {sp : Word} {i : Nat} (h : 2 * i < sp.toNat) :
    (entry sp i).toNat = memorySize - sp.toNat + 2 * i := by
  have := sp.toNat_lt
  have small : (2 * i.toUInt64).toNat = 2 * i := by
    simp only [UInt64.toNat_mul, Nat.toUInt64_eq, UInt64.toNat_ofNat', UInt64.reduceToNat]
    omega
  rw [entry, UInt64.toNat_add, toNat_slot, small, memorySize]
  omega

/-- A push moves every word one place further down. -/
theorem entry_succ {sp : Word} (room : sp.toNat < 0xFFFE) {i : Nat} (h : 2 * i < sp.toNat) :
    entry (sp + 2) (i + 1) = entry sp i := by
  have grown := toNat_grown room
  apply UInt64.toNat_inj.mp
  rw [toNat_entry (by omega), toNat_entry h, grown, memorySize]
  omega

/-- A pop moves every word that stays one place further up. -/
theorem entry_pred {sp : Word} {i : Nat} (h : 2 * (i + 1) < sp.toNat) :
    entry (sp - 2) i = entry sp (i + 1) := by
  have := sp.toNat_lt
  have shrunk : (sp - 2).toNat = sp.toNat - 2 := toNat_shrunk (by omega)
  apply UInt64.toNat_inj.mp
  rw [toNat_entry (by omega), toNat_entry h, shrunk, memorySize]
  omega

/-- A push leaves the words that are on the stack already. -/
theorem read16_entry_succ {memory memory' : Memory} {sp value : Word} (lt : sp.toNat < 0xFFFE)
    (written : memory.write16 (slot (sp + 2)) value = .ok memory') {i : Nat}
    (h : 2 * i < sp.toNat) :
    memory'.read16 (entry (sp + 2) (i + 1)) = memory.read16 (entry sp i) := by
  have grown := toNat_grown lt
  have word := toNat_entry h
  have place := toNat_slot (sp + 2)
  have size : memorySize = 0x10000 := rfl
  rw [entry_succ lt h]
  apply Memory.read16_of_write16_above written
  · omega
  · omega

theorem Stacked.push {m pushed : Machine κ} {returns : List Nat} {offset : Word} {address : Nat}
    (h : Stacked m returns) (push : m.push offset = (.ok (), pushed))
    (kept : (programStart.toNat + offset.toNat) % memorySize = address) :
    Stacked pushed (address :: returns) := by
  obtain ⟨sp, memory, room, written, rfl⟩ := push_ok_iff.mp push
  obtain ⟨lt, rfl⟩ := pushed?_eq_some_iff.mp room
  have grown := toNat_grown lt
  have count := h.sp
  constructor
  · simp only [Registers.word_setWord_self, grown, count, List.length_cons]
    omega
  · intro i hi
    simp only [Registers.word_setWord_self]
    cases i with
    | zero =>
      rw [entry_zero]
      exact ⟨offset, Memory.read16_of_write16 written, kept⟩
    | succ i =>
      simp only [List.length_cons, Nat.add_lt_add_iff_right] at hi
      obtain ⟨saved, read, eq⟩ := h.saved i hi
      refine ⟨saved, ?_, eq⟩
      rw [← read]
      exact read16_entry_succ lt written (by omega)

theorem Stacked.pop {m : Machine κ} {returns : List Nat} {offset : Word}
    (h : Stacked m returns) (top : m.top = .ok offset) :
    returns.head? = some ((programStart.toNat + offset.toNat) % memorySize) ∧
    Stacked (m.setWord .sp (m.registers.word .sp - 2)) returns.tail := by
  obtain ⟨full, read⟩ := top_eq_ok_iff.mp top
  have count := h.sp
  cases returns with
  | nil => exact absurd (UInt16.toNat_inj.mp count) full
  | cons address rest =>
    simp only [List.length_cons] at count
    have shrunk : (m.registers.word .sp - 2).toNat = 2 * rest.length := by
      rw [toNat_shrunk (by omega), count]
      omega
    constructor
    · obtain ⟨saved, found, eq⟩ := h.saved 0 (by simp)
      rw [entry_zero, read] at found
      cases found
      simp [eq]
    · constructor
      · simp only [setWord, Registers.word_setWord_self, shrunk, List.tail_cons]
      · intro i hi
        simp only [List.tail_cons] at hi
        obtain ⟨saved, found, eq⟩ := h.saved (i + 1) (by simp; omega)
        refine ⟨saved, ?_, eq⟩
        simp only [setWord, Registers.word_setWord_self]
        rw [entry_pred (by omega)]
        exact found

theorem stacked_loaded (name : String) (image : List UInt8) (console : κ) :
    Stacked (loaded name image console) [] := by
  refine ⟨?_, nofun⟩
  have : (Registers.zero.setWord .ip programStart.toUInt16).word .sp = 0 := by decide
  exact congrArg UInt16.toNat this

variable [Console κ]

theorem Stacked.step {a b : Machine κ} {returns : List Nat} (h : Stacked a returns)
    (step : Step a (.ok ()) b) : Stacked b (account returns a) := by
  cases step with
  | nop next | jmp next =>
    simp only [account, next]
    exact h.arrive _
  | movAh next =>
    simp only [account, next]
    apply Stacked.arrive
    exact h.of_same rfl (a.registers.word_setByte_of_ne (by decide) _)
  | movDx next =>
    simp only [account, next]
    apply Stacked.arrive
    exact h.of_same rfl (a.registers.word_setWord_of_ne (by decide) _)
  | ret next top =>
    simp only [account, next]
    exact (h.pop top).2.arrive _
  | int next selects serves =>
    simp only [account, next]
    obtain ⟨memory, -, -, -, byte, registers⟩ := serves.frame
    refine (h.of_same memory ?_).arrive _
    rw [registers]
    exact a.registers.word_setByte_of_ne (by decide) _
  | call next push =>
    simp only [account, next]
    exact (h.push push (toNat_returnOffset _ _)).arrive _

theorem Stacked.ret {a b : Machine κ} {returns : List Nat} (h : Stacked a returns)
    (step : Step a (.ok ()) b) (ret : a.instruction = .ok .ret) :
    returns.head? = some b.ip.toNat := by
  cases step with
  | ret _ top =>
    rw [(h.pop top).1, ← toNat_returnAddress]
    rfl
  | nop next | movAh next | movDx next | int next | call next | jmp next =>
    rw [ret] at next
    cases next

theorem stacked_after {s m : Machine κ} (start : Stacked s []) {n : Nat} (h : s.after? n = some m) :
    Stacked m (returns (s.history n)) := by
  induction n generalizing m with
  | zero =>
    cases h
    exact start
  | succ n ih =>
    obtain ⟨a, reached, step⟩ := after?_succ_iff.mp h
    rw [history_succ reached, returns, List.foldl_append]
    exact (ih reached).step step

/-- The stack in memory is the stack of return addresses. After any number of steps SP counts its
bytes, its words are the addresses, and a return goes to the innermost one, whatever else the
program did and wherever its image lies. -/
theorem stack_holds_returns (name : String) {image : List UInt8} (console : κ)
    (fits : image.length ≤ maxImageSize) :
    ∃ s, load name image console = .ok s ∧ ∀ n m, s.after? n = some m →
      (m.registers.word .sp).toNat = 2 * (returns (s.history n)).length ∧
      (returns (s.history n)).length ≤ 32767 ∧
      (∀ i (h : i < (returns (s.history n)).length), ∃ offset,
        m.memory.read16 (stackTop - (m.registers.word .sp).toUInt64 + 2 * i.toUInt64) = .ok offset ∧
        (programStart.toNat + offset.toNat) % memorySize = (returns (s.history n))[i]) ∧
      ∀ k < n, ∀ a b, s.after? k = some a → a.instruction = .ok .ret → s.after? (k + 1) = some b →
        (returns (s.history k)).head? = some b.ip.toNat := by
  have start := stacked_loaded name image console
  refine ⟨_, load_eq name console fits, fun n m reached => ?_⟩
  have stacked := stacked_after start reached
  refine ⟨stacked.sp, stacked.length_le, stacked.saved, ?_⟩
  intro k _ a b before ret behind
  obtain ⟨a', before', step⟩ := after?_succ_iff.mp behind
  rw [before] at before'
  cases before'
  exact (stacked_after start before).ret step ret

/-- A call of the following instruction, which returns. -/
theorem stack_holds_returns_call_ret :
    ∃ s a b, load "a.com" [0xE8, 0, 0, 0xC3] (Buffer.ofInput []) = .ok s ∧
      s.after? 1 = some a ∧ (a.registers.word .sp).toNat = 2 ∧
      s.after? 2 = some b ∧ b.ip.toNat = 0x103 := by
  have fits : ([0xE8, 0, 0, 0xC3] : List UInt8).length ≤ maxImageSize := by decide
  obtain ⟨s, load, holds⟩ := stack_holds_returns "a.com" (Buffer.ofInput []) fits
  have eq := Except.ok.inj (load.symm.trans (load_eq "a.com" (Buffer.ofInput []) fits))
  have ip : s.ip = 0x100 := by rw [eq]; rfl
  have sp : s.registers.word .sp = 0 := by rw [eq]; decide
  have opcode : s.memory.read8 0x100 = .ok 0xE8 := by
    rw [eq]
    exact read8_loaded _ _ _ (by decide) (by decide)
  have operand : s.memory.read8 (0x100 + 1) = .ok 0 := by
    rw [eq]
    exact read8_loaded _ _ _ (by decide) (by decide)
  have last : s.memory.read8 0x103 = .ok 0xC3 := by
    rw [eq]
    exact read8_loaded _ _ _ (by decide) (by decide)
  have call : s.instruction = .ok (.call 0) := by
    rw [instruction, ip]
    exact Instruction.fetch_eq_ok_iff.mpr ⟨.call, opcode, by rw [Instruction.read, operand]; rfl⟩
  obtain ⟨a, after, there, written⟩ : ∃ a, s.after? 1 = some a ∧ a.ip = 0x103 ∧
      s.memory.write16 (slot 2) 3 = .ok a.memory := by
    have room : s.pushed? = some 2 := pushed?_eq_some_iff.mpr (by rw [sp]; decide)
    obtain ⟨memory, written⟩ := write16_slot_ok room s.memory 3
    have target : Instruction.target ((Instruction.call 0).next s.ip) 0 = .ok 0x103 := by
      rw [ip]
      rfl
    have offset : returnOffset ((Instruction.call 0).next s.ip) = 3 := by
      rw [ip]
      rfl
    have push := push_ok_iff.mpr ⟨2, memory, room, written, rfl⟩
    rw [← offset] at push
    exact ⟨_, after?_succ_iff.mpr ⟨s, rfl, .call call push target⟩, rfl, written⟩
  have ret : a.instruction = .ok .ret := by
    rw [instruction, there]
    refine Instruction.fetch_eq_ok_iff.mpr ⟨.ret, ?_, rfl⟩
    rw [Memory.read8_of_write16 written, if_neg (by decide), if_neg (by decide)]
    exact last
  have called : returns (s.history 1) = [0x103] := by
    rw [history_succ (show s.after? 0 = some s from rfl)]
    simp only [history, List.range_zero, List.filterMap_nil, List.nil_append, returns,
      List.foldl_cons, List.foldl_nil, account, call, ip]
    rfl
  have one := holds 1 a after
  rw [called] at one
  obtain ⟨offset, read, _⟩ := one.2.2.1 0 (by decide)
  have top : a.top = .ok offset := by
    refine top_eq_ok_iff.mpr ⟨?_, ?_⟩
    · intro empty
      rw [empty] at one
      exact absurd one.1 (by decide)
    · simpa [slot] using read
  have after2 := after?_succ_iff.mpr ⟨a, after, .ret ret top⟩
  have two := (holds 2 _ after2).2.2.2 1 (by decide) a _ after ret after2
  rw [called] at two
  exact ⟨s, a, _, load, after, one.1, after2, (Option.some.inj two).symm⟩

end Micro86.Machine
