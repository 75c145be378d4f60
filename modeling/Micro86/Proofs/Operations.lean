import Micro86.Proofs.Effects
import Micro86.Proofs.Interrupts
import Micro86.Proofs.Unbounded

/-!
# Operations in unbounded numbers

What the operations of a step come out as in unbounded numbers: each does what it does in words, and
each has an outcome. `run_push` and `run_pop` hold for every SP.
-/

namespace Micro86.Unbounded

variable {κ : Type} {α β : Type} {m m' : Machine κ}

theorem run_bind_ok {x : Unbounded κ α} {a : α} {f : α → Unbounded κ β}
    (h : x.run.run m = some (.ok a, m')) : (x >>= f).run.run m = (f a).run.run m' := by
  simp only [ExceptT.run_bind, StateT.run_bind, h]
  rfl

theorem run_bind_error {x : Unbounded κ α} {e : Fault} {f : α → Unbounded κ β}
    (h : x.run.run m = some (.error e, m')) : (x >>= f).run.run m = some (.error e, m') := by
  simp only [ExceptT.run_bind, StateT.run_bind, h]
  rfl

theorem run_lift {a? : Option α} {a : α} (h : a? = some a) :
    (liftM a? : Unbounded κ α).run.run m = some (.ok a, m) := by
  rw [h]
  rfl

theorem run_get : (get : Unbounded κ (Machine κ)).run.run m = some (.ok m, m) :=
  rfl

section Numbers

theorem address?_toNat (a : Address) : address? a.toNat = some a := by
  rw [address?, if_pos a.toNat_lt]
  exact congrArg some UInt64.ofNat_toNat

theorem word?_toNat (w : Word) : word? w.toNat = some w := by
  rw [word?, if_pos w.toNat_lt]
  exact congrArg some UInt16.ofNat_toNat

theorem byte?_toNat (b : UInt8) : byte? b.toNat = some b := by
  rw [byte?, if_pos b.toNat_lt]
  exact congrArg some UInt8.ofNat_toNat

theorem minus?_of_le {a b : Nat} (le : b ≤ a) : minus? a b = some (a - b) :=
  if_pos le

theorem upTo?_of_le {xs : List α} {n : Nat} (le : n ≤ xs.length) : upTo? xs n = some (xs.take n) :=
  if_pos le

end Numbers

section Tables

/-- Where no key is entered twice, its place holds what it was entered with. -/
theorem getElem?_foldl_enter {entries : List (UInt8 × α)} (distinct : (entries.map Prod.fst).Nodup)
    (key : UInt8) {table : Vector (Option α) 256} {before : Option α}
    (there : table[key.toNat]? = some before) :
    (entries.foldl (fun table (k, value) => table.setIfInBounds k.toNat (some value))
        table)[key.toNat]? =
      some ((entries.lookup key).or before) := by
  induction entries generalizing table before with
  | nil => exact there
  | cons entry entries ih =>
    obtain ⟨k, value⟩ := entry
    obtain ⟨fresh, others⟩ := List.nodup_cons.mp distinct
    rw [List.foldl_cons, List.lookup_cons]
    by_cases same : key = k
    · subst same
      have absent : entries.lookup key = none :=
        List.lookup_eq_none_iff.mpr fun e mem =>
          bne_iff_ne.mpr fun again => fresh (List.mem_map.mpr ⟨e, mem, again.symm⟩)
      rw [ih others (Vector.getElem?_setIfInBounds_self_of_lt key.toNat_lt), absent,
        beq_self_eq_true]
      rfl
    · have other : (key == k) = false := beq_false_of_ne same
      have apart : k.toNat ≠ key.toNat := fun eq => same (UInt8.toNat_inj.mp eq.symm)
      rw [ih others ((Vector.getElem?_setIfInBounds_ne apart).trans there), other]

theorem getElem?_tabulate {entries : List (UInt8 × α)} (distinct : (entries.map Prod.fst).Nodup)
    (key : UInt8) : (tabulate entries)[key.toNat]? = some (entries.lookup key) := by
  have empty : (Vector.replicate 256 (none : Option α))[key.toNat]? = some none := by
    rw [Vector.getElem?_replicate, if_pos key.toNat_lt]
  rw [tabulate, getElem?_foldl_enter distinct key empty, Option.or_none]

theorem opcodes_eq (b : UInt8) : opcodes[b.toNat]? = some (Opcode.ofByte? b) := by
  have distinct : ((Opcode.all.map fun o => (o.byte, o)).map Prod.fst).Nodup := by decide
  rw [opcodes, getElem?_tabulate distinct]
  congr 1
  ext o
  rw [lookup_eq_some_iff_mem distinct, Opcode.ofByte?_eq_some_iff, List.mem_map]
  constructor
  · rintro ⟨_, -, ⟨⟩⟩
    rfl
  · rintro rfl
    exact ⟨o, by cases o <;> decide, rfl⟩

theorem dosServices_eq (selector : UInt8) :
    (tabulate Service.dos)[selector.toNat]? = some (Service.dos.lookup selector) :=
  getElem?_tabulate (by decide) selector

theorem services_zero : services[0]? = some (.replicate 256 (some .terminate)) :=
  rfl

theorem services_one : services[1]? = some (tabulate Service.dos) :=
  rfl

theorem services_add_two (n : Nat) :
    services[n + 2]? = if n + 2 < Service.vectorCount then some (.replicate 256 none)
      else none := by
  rw [services, Vector.getElem?_setIfInBounds_ne (by omega),
    Vector.getElem?_setIfInBounds_ne (by omega), Vector.getElem?_replicate]

/-- The selector of a service is never outside its row, nor is a number outside the
vectors looked up. -/
theorem select?_eq (number selector : UInt8) :
    select? number selector = some (Service.select? number selector) := by
  have column (a : Option Service) : (Vector.replicate 256 a)[selector.toNat]? = some a := by
    rw [Vector.getElem?_replicate, if_pos selector.toNat_lt]
  rw [select?, Service.select?, Service.vector]
  by_cases low : Service.vectorBase.toNat ≤ number.toNat
  · obtain ⟨vector, eq⟩ := Nat.exists_eq_add_of_le low
    have vectors : (number.toNat : Int) - Service.vectorBase.toNat = vector := by omega
    rw [minus?_of_le low, eq, Nat.add_sub_cancel_left, ← eq, vectors]
    rcases vector with _ | _ | n
    · simp only [services_zero, column, Int.natCast_zero, ↓reduceIte]
    · simp only [Nat.zero_add, services_one, dosServices_eq, Int.natCast_one, Int.one_ne_zero,
        ↓reduceIte]
    · have beyond : ((n + 2 : Nat) : Int) ≠ 0 ∧ ((n + 2 : Nat) : Int) ≠ 1 := by omega
      simp only [services_add_two, beyond, ↓reduceIte]
      by_cases listed : n + 2 < Service.vectorCount
      · simp only [listed, ↓reduceIte, column]
      · simp only [listed, ↓reduceIte]
  · have none : minus? number.toNat Service.vectorBase.toNat = none := if_neg low
    rw [none, if_neg (by omega), if_neg (by omega)]

end Tables

section Memory

theorem run_outOfBounds (a : Address) :
    (outOfBounds a.toNat : Unbounded κ α).run.run m = some (.error (.memory (.outOfBounds a)), m) :=
  run_bind_ok (run_lift (address?_toNat a))

theorem run_read8 (a : Address) :
    (read8 a.toNat : Unbounded κ UInt8).run.run m =
      some ((m.memory.read8 a).mapError .memory, m) := by
  rw [read8, run_bind_ok run_get, Memory.read8]
  by_cases inside : a.toNat < memorySize
  · rw [Vector.getElem?_eq_getElem inside, dif_pos inside]
    rfl
  · rw [Vector.getElem?_eq_none (Nat.le_of_not_lt inside), dif_neg inside]
    exact run_outOfBounds a

theorem run_read16 (a : Address) :
    (read16 a.toNat : Unbounded κ Nat).run.run m =
      some (((m.memory.read16 a).mapError .memory).map UInt16.toNat, m) := by
  rw [read16, Memory.read16]
  have low := run_read8 (m := m) a
  cases first : m.memory.read8 a with
  | error e =>
    rw [first] at low
    exact run_bind_error low
  | ok l =>
    -- Only the address of a byte in memory is counted up.
    obtain ⟨inside, -⟩ := Memory.read8_eq_ok_iff.mp first
    have high := run_read8 (m := m) (a + 1)
    rw [first] at low
    rw [run_bind_ok low, ← toNat_succ inside]
    cases second : m.memory.read8 (a + 1) with
    | error e =>
      rw [second] at high
      exact run_bind_error high
    | ok h =>
      rw [second] at high
      rw [run_bind_ok high]
      show some (Except.ok (l.toNat + 256 * h.toNat), m) = some (.ok (Word.ofBytes l h).toNat, m)
      rw [Word.toNat_ofBytes]

theorem run_write8 {a : Address} (inside : a.toNat < memorySize) (value : UInt8) :
    ∃ memory, m.memory.write8 a value = .ok memory ∧
      (write8 a.toNat value.toNat : Unbounded κ Unit).run.run m =
        some (.ok (), { m with memory }) := by
  refine ⟨_, dif_pos inside, ?_⟩
  rw [write8, run_bind_ok (run_lift (byte?_toNat value)), run_bind_ok run_get, dif_pos inside]
  rfl

theorem run_write16 {a : Address} (inside : a.toNat + 1 < memorySize) (value : Word) :
    ∃ memory, m.memory.write16 a value = .ok memory ∧
      (write16 a.toNat value.toNat : Unbounded κ Unit).run.run m =
        some (.ok (), { m with memory }) := by
  have next := toNat_succ (Nat.lt_of_succ_lt inside)
  obtain ⟨half, first, low⟩ := run_write8 (m := m) (Nat.lt_of_succ_lt inside) value.low
  obtain ⟨whole, second, high⟩ := run_write8 (m := { m with memory := half }) (a := a + 1)
    (by rw [next]; exact inside) value.high
  rw [Word.toNat_low] at low
  rw [Word.toNat_high, next] at high
  refine ⟨whole, ?_, ?_⟩
  · rw [Memory.write16, next, if_pos inside, first]
    exact second
  · have room : ¬ memorySize ≤ a.toNat + 1 := Nat.not_le_of_lt inside
    simp only [write16, room, ↓reduceIte]
    rw [run_bind_ok low]
    exact high

end Memory

section Stack

theorem run_word (r : Reg16) :
    (word r : Unbounded κ Nat).run.run m = some (.ok (m.registers.word r).toNat, m) :=
  rfl

theorem run_setWord (r : Reg16) (value : Word) :
    (setWord r value.toNat : Unbounded κ Unit).run.run m = some (.ok (), m.setWord r value) :=
  run_bind_ok (run_lift (word?_toNat value))

/-- No SP leads below address 0. -/
theorem minus?_slot (sp : Word) : minus? memorySize sp.toNat = some (Machine.slot sp).toNat := by
  have le : sp.toNat ≤ memorySize := Nat.le_of_lt sp.toNat_lt
  rw [minus?_of_le le, Machine.toNat_slot]

/-- The word pushed lies in memory, wherever SP is. -/
theorem run_push (value : Word) :
    (push value.toNat : Unbounded κ Unit).run.run m = some (m.push value) := by
  rw [push, run_bind_ok (run_word .sp)]
  -- Where the new SP is a word it is at least 2, so the word pushed ends within memory.
  by_cases room : (m.registers.word .sp).toNat < 0xFFFE
  · have pushed := Machine.pushed?_eq_some_iff.mpr ⟨room, rfl⟩
    have grown := Machine.toNat_grown room
    have inside : (Machine.slot (m.registers.word .sp + 2)).toNat + 1 < memorySize := by
      rw [Machine.toNat_slot, grown, memorySize]
      omega
    have fits : ¬ UInt16.size ≤ (m.registers.word .sp).toNat + 2 := by
      rw [UInt16.size]
      omega
    obtain ⟨memory, written, runs⟩ := run_write16 (m := m) inside value
    rw [Machine.push_ok_iff.mpr ⟨_, memory, pushed, written, rfl⟩]
    simp only [fits, ↓reduceIte]
    rw [← grown, run_bind_ok (run_lift (minus?_slot _)), run_bind_ok runs]
    exact run_setWord .sp _
  · have full := Machine.pushed?_eq_none_iff.mpr (Nat.le_of_not_lt room)
    have large : UInt16.size ≤ (m.registers.word .sp).toNat + 2 := by
      rw [UInt16.size]
      omega
    rw [Machine.push_error_iff.mpr ⟨full, rfl, rfl⟩]
    simp only [large, ↓reduceIte]
    rfl

/-- One byte on the stack is not enough for a word, and is found out before SP changes. -/
theorem run_pop : (pop : Unbounded κ Nat).run.run m = some (m.pop.1.map UInt16.toNat, m.pop.2) := by
  rw [pop, run_bind_ok (run_word .sp), Machine.pop, Machine.top]
  -- With SP = 1 the stack is not empty, and the read fails: the word ends beyond memory.
  by_cases empty : m.registers.word .sp = 0
  · simp only [empty, ↓reduceIte]
    rfl
  · have word : (m.registers.word .sp).toNat ≠ 0 := fun zero => empty (UInt16.toNat_inj.mp zero)
    simp only [empty, word, ↓reduceIte]
    have reads := run_read16 (m := m) (Machine.slot (m.registers.word .sp))
    rw [run_bind_ok (run_lift (minus?_slot _))]
    cases top : m.memory.read16 (Machine.slot (m.registers.word .sp)) with
    | error e =>
      rw [top] at reads
      exact run_bind_error reads
    | ok value =>
      rw [top] at reads
      have two := Machine.two_le_of_top (Machine.top_eq_ok_iff.mpr ⟨empty, top⟩)
      rw [run_bind_ok reads, run_bind_ok (run_lift (minus?_of_le two)), ← Machine.toNat_shrunk two,
        run_bind_ok (run_setWord .sp _)]
      rfl

theorem run_arrive (goal : Address) (room : m.steps.toNat + 1 < UInt64.size) :
    (arrive goal.toNat : Unbounded κ Unit).run.run m = some (.ok (), m.arrive goal) := by
  have counted : m.steps.toNat + 1 = (m.steps + 1).toNat := by
    simp only [UInt64.size] at room
    simp only [UInt64.toNat_add, UInt64.reduceToNat]
    omega
  have mirrored : goal.toNat % memorySize = goal.toUInt16.toNat := by
    rw [UInt64.toNat_toUInt16]
    rfl
  rw [arrive, run_bind_ok run_get, run_bind_ok (run_lift (address?_toNat goal)), counted,
    run_bind_ok (run_lift (address?_toNat _)), mirrored]
  exact run_setWord .ip _

end Stack

section Targets

/-- No jump from near memory leads beyond the last address. -/
theorem run_relative {origin : Address} (near : origin.toNat ≤ memorySize + 2)
    (displacement : Int8) :
    (relative origin.toNat displacement.toInt : Unbounded κ Nat).run.run m =
      some ((Instruction.target origin displacement).map UInt64.toNat, m) := by
  rw [relative]
  by_cases below : (origin.toNat : Int) + displacement.toInt < 0
  · rw [Instruction.target_eq_error_iff.mpr ⟨.inl below, rfl⟩]
    simp only [below, ↓reduceIte]
    exact run_bind_error (run_outOfBounds origin)
  · have short := displacement.toInt_lt
    have inside : (origin.toNat : Int) + displacement.toInt < UInt64.size := by
      simp only [memorySize] at near
      simp only [UInt64.size]
      omega
    obtain ⟨goal, target⟩ : ∃ goal, Instruction.target origin displacement = .ok goal :=
      ⟨_, if_pos ⟨Int.not_lt.mp below, inside⟩⟩
    have there := Instruction.toNat_of_target near target
    rw [target]
    simp only [below, ↓reduceIte]
    show some (Except.ok ((origin.toNat : Int) + displacement.toInt).toNat, m) = _
    rw [← there]
    rfl

/-- Only what a call saves is reduced to a word. -/
theorem toNat_saved (next : Address) :
    (((next.toNat : Int) - programStart.toNat) % memorySize).toNat =
      (Machine.returnOffset next).toNat := by
  have := next.toNat_lt
  simp only [Machine.returnOffset, programStart, memorySize, UInt64.toNat_toUInt16,
    UInt64.toNat_sub, UInt64.reduceToNat]
  omega

end Targets

end Micro86.Unbounded
