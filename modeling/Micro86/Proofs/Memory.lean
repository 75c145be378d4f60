import Micro86.Memory

/-!
# Words in memory

A word that was written is read back, and a word that lies apart from it is read as before. A block
that was placed is found where it was put.
-/

namespace Micro86

/-- Addresses in memory are far from where the arithmetic wraps. -/
theorem toNat_succ {a : Address} (inside : a.toNat < memorySize) : (a + 1).toNat = a.toNat + 1 := by
  simp only [memorySize] at inside
  simp only [UInt64.toNat_add, UInt64.reduceToNat]
  omega

namespace Memory

variable {m m' : Memory} {a b : Address}

theorem write8_ok (inside : a.toNat < memorySize) (value : UInt8) :
    ∃ m', m.write8 a value = .ok m' := by
  simp only [write8, inside, ↓reduceDIte]
  exact ⟨_, rfl⟩

theorem write16_ok (inside : a.toNat + 1 < memorySize) (value : Word) :
    ∃ m', m.write16 a value = .ok m' := by
  have next := toNat_succ (Nat.lt_of_succ_lt inside)
  obtain ⟨half, first⟩ := write8_ok (m := m) (a := a) (by omega) value.low
  obtain ⟨whole, second⟩ := write8_ok (m := half) (a := a + 1) (by omega) value.high
  refine ⟨whole, ?_⟩
  simp only [write16, next, inside, ↓reduceIte, first]
  exact second

theorem read8_of_write16 {value : Word} (h : m.write16 a value = .ok m') :
    m'.read8 b = if a + 1 = b then .ok value.high else if a = b then .ok value.low
      else m.read8 b := by
  unfold write16 at h
  split at h
  · cases first : m.write8 a value.low with
    | error e => simp [first, bind, Except.bind] at h
    | ok half =>
      have second : half.write8 (a + 1) value.high = .ok m' := by
        simpa [first, bind, Except.bind] using h
      rw [read8_of_write8 second, read8_of_write8 first]
  · cases h

theorem read16_eq_ok_iff {value : Word} :
    m.read16 a = .ok value ↔ ∃ low high, m.read8 a = .ok low ∧ m.read8 (a + 1) = .ok high ∧
      value = Word.ofBytes low high := by
  unfold read16
  cases m.read8 a with
  | error => simp [bind, Except.bind]
  | ok low =>
    cases m.read8 (a + 1) with
    | error => simp [bind, Except.bind]
    | ok high => simp [bind, Except.bind, pure, Except.pure, eq_comm]

theorem read16_of_write16 {value : Word} (h : m.write16 a value = .ok m') :
    m'.read16 a = .ok value := by
  refine read16_eq_ok_iff.mpr ⟨value.low, value.high, ?_, ?_, (Word.ofBytes_low_high value).symm⟩
  · simp [read8_of_write16 h]
  · simp [read8_of_write16 h]

/-- A word above the one that is written stays. -/
theorem read16_of_write16_above {value : Word} (h : m.write16 a value = .ok m')
    (above : a.toNat + 2 ≤ b.toNat) (inside : b.toNat < memorySize) : m'.read16 b = m.read16 b := by
  have kept (c : Address) (hc : a.toNat + 2 ≤ c.toNat) : m'.read8 c = m.read8 c := by
    have low : a ≠ c := by rintro rfl; omega
    have high : a + 1 ≠ c := by
      rintro rfl
      have := toNat_succ (a := a) (by omega)
      omega
    simp [read8_of_write16 h, low, high]
  have := toNat_succ inside
  unfold read16
  rw [kept b above, kept (b + 1) (by omega)]

theorem read8_eq_ok_iff_getElem? {value : UInt8} :
    m.read8 a = .ok value ↔ m.cells[a.toNat]? = some value := by
  rw [read8_eq_ok_iff, Vector.getElem?_eq_some_iff]

/-- A read of a word fails at the first address outside. -/
theorem read16_eq_error_iff {e : MemoryError} (near : a.toNat ≤ memorySize) :
    m.read16 a = .error e ↔ memorySize ≤ a.toNat + 1 ∧ e = .outOfBounds stackTop := by
  have size : memorySize = 0x10000 := rfl
  have top : stackTop.toNat = memorySize := rfl
  unfold read16
  cases first : m.read8 a with
  | error =>
    obtain ⟨outside, rfl⟩ := read8_eq_error_iff.mp first
    have there : a = stackTop := UInt64.toNat_inj.mp (by omega)
    subst there
    simp [bind, Except.bind, top, eq_comm]
  | ok low =>
    obtain ⟨inside, -⟩ := read8_eq_ok_iff.mp first
    have next := toNat_succ inside
    cases second : m.read8 (a + 1) with
    | error =>
      obtain ⟨outside, rfl⟩ := read8_eq_error_iff.mp second
      rw [next] at outside
      have there : a + 1 = stackTop := UInt64.toNat_inj.mp (by omega)
      rw [there]
      simp [bind, Except.bind, outside, eq_comm]
    | ok high =>
      obtain ⟨whole, -⟩ := read8_eq_ok_iff.mp second
      rw [next] at whole
      simp [bind, Except.bind, pure, Except.pure, Nat.not_le_of_lt whole]

/-- A block replaces the cells it is placed on and no others. -/
theorem getElem_place (cells : Vector UInt8 memorySize) (i : Nat) (bytes : List UInt8) {j : Nat}
    (inside : j < memorySize) :
    (place cells i bytes)[j] = if i ≤ j then bytes[j - i]?.getD cells[j] else cells[j] := by
  induction bytes generalizing cells i with
  | nil => simp [place]
  | cons b bytes ih =>
    rw [place, ih]
    rcases Nat.lt_trichotomy j i with before | rfl | behind
    · simp [show i ≠ j by omega, show ¬ i + 1 ≤ j by omega, show ¬ i ≤ j by omega]
    · simp [show ¬ j + 1 ≤ j by omega]
    · have : j - i = j - (i + 1) + 1 := by omega
      simp [show i ≠ j by omega, show i + 1 ≤ j by omega, show i ≤ j by omega, this]

/-- The cells that a block is placed on hold its bytes, and all others what they held. -/
theorem getElem?_place (cells : Vector UInt8 memorySize) (i : Nat) (bytes : List UInt8) (j : Nat) :
    (place cells i bytes)[j]? =
      if i ≤ j ∧ j < i + bytes.length ∧ j < memorySize then bytes[j - i]? else cells[j]? := by
  by_cases inside : j < memorySize
  · rw [Vector.getElem?_eq_getElem inside, Vector.getElem?_eq_getElem inside, getElem_place]
    by_cases behind : i ≤ j
    · by_cases before : j < i + bytes.length
      · have there : j - i < bytes.length := by omega
        simp [behind, before, inside, there]
      · have there : bytes[j - i]? = none := List.getElem?_eq_none (by omega)
        simp [before, there]
    · simp [behind]
  · simp [inside]

theorem set_eq_place (cells : Vector UInt8 memorySize) {i : Nat} (inside : i < memorySize)
    (b : UInt8) :
    cells.set i b inside = place cells i [b] := by
  unfold place
  ext j h
  rw [Vector.getElem_set, place, Vector.getElem_setIfInBounds]

theorem write8_eq (m : Memory) (a : Address) (value : UInt8) :
    m.write8 a value =
      if a.toNat < memorySize then .ok ⟨place m.cells a.toNat [value]⟩
        else .error (.outOfBounds a) := by
  unfold write8
  by_cases inside : a.toNat < memorySize
  · rw [dif_pos inside, if_pos inside, set_eq_place]
  · rw [dif_neg inside, if_neg inside]

/-- Behind the last address comes address 0, which is inside; then the first byte is reported. -/
theorem write16_eq (m : Memory) (a : Address) (value : Word) :
    m.write16 a value =
      if a.toNat + 1 < memorySize then .ok ⟨place m.cells a.toNat [value.low, value.high]⟩
      else .error (.outOfBounds (if (a + 1).toNat < memorySize then a else a + 1)) := by
  unfold write16
  by_cases inside : a.toNat < memorySize
  · have next := toNat_succ inside
    rw [next, write8_eq, if_pos inside]
    by_cases whole : a.toNat + 1 < memorySize
    · rw [if_pos whole, if_pos whole]
      show Memory.write8 _ (a + 1) value.high = _
      rw [write8_eq, next, if_pos whole]
      rfl
    · rw [if_neg whole, if_neg whole, if_neg whole]
  · rw [write8_eq, if_neg inside, if_neg (by omega : ¬ a.toNat + 1 < memorySize)]
    by_cases wraps : (a + 1).toNat < memorySize
    · rw [if_pos wraps, if_pos wraps]
      rfl
    · rw [if_neg wraps, if_neg wraps]

/-- A write of a word leaves all cells but two. -/
theorem getElem?_of_write16 {value : Word} (h : m.write16 a value = .ok m') {i : Nat}
    (low : i ≠ a.toNat)
    (high : i ≠ a.toNat + 1) : m'.cells[i]? = m.cells[i]? := by
  rw [write16_eq] at h
  split at h
  · cases h
    rw [getElem?_place, if_neg]
    rintro ⟨behind, before, -⟩
    rw [List.length_cons, List.length_singleton] at before
    omega
  · cases h

/-- The end of a block may wrap, but then it comes before the start. -/
theorem block_fits_iff (a : Address) {n : Nat} (short : n < UInt64.size) :
    (a ≤ a + n.toUInt64 ∧ (a + n.toUInt64).toNat ≤ memorySize) ↔ a.toNat + n ≤ memorySize := by
  have start := a.toNat_lt
  have finish : (a + n.toUInt64).toNat = (a.toNat + n) % UInt64.size := by
    simp only [UInt64.toNat_add, Nat.toUInt64_eq, UInt64.toNat_ofNat', UInt64.size, Nat.add_mod_mod]
  rw [UInt64.le_iff_toNat_le, finish]
  simp only [UInt64.size, memorySize] at short ⊢
  omega

theorem load_eq (m : Memory) (a : Address) {bytes : List UInt8}
    (short : bytes.length < UInt64.size) :
    m.load a bytes =
      if a.toNat + bytes.length ≤ memorySize then .ok ⟨place m.cells a.toNat bytes⟩
      else .error (.outOfBounds (a + bytes.length.toUInt64)) := by
  simp only [load, block_fits_iff a short]

/-- A scan takes from the rest of memory. -/
theorem scan_eq (m : Memory) (terminator : UInt8) (n i : Nat) :
    m.scan terminator n i = ((m.cells.toList.drop i).take n).takeWhile (· ≠ terminator) := by
  induction n generalizing i with
  | zero => rfl
  | succ n ih =>
    rw [scan]
    by_cases h : i < memorySize
    · have inside : i < m.cells.toList.length := by rwa [Vector.length_toList]
      rw [List.drop_eq_getElem_cons inside, List.take_succ_cons, List.takeWhile_cons]
      by_cases ends : m.cells[i] = terminator
      · simp [h, ends]
      · simp [h, ends, ih]
    · have behind : m.cells.toList.length ≤ i := by
        rw [Vector.length_toList]
        exact Nat.le_of_not_lt h
      simp [h, List.drop_eq_nil_of_le behind]

theorem terminated_eq (m : Memory) (start : Address) (terminator : UInt8) :
    m.terminated start terminator =
      ((m.cells.toList.drop start.toNat).take maxImageSize).takeWhile (· ≠ terminator) := by
  have left : (m.cells.toList.drop start.toNat).length = memorySize - start.toNat := by
    rw [List.length_drop, Vector.length_toList]
  rw [terminated, scan_eq, ← left, ← List.take_eq_take_min]

end Memory

end Micro86
