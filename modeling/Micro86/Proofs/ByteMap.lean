import Micro86.Proofs.Memory

/-!
# Memory as a map of bytes

A `Write` succeeds exactly if its range lies in memory, counted in numbers that do not wrap. Then it
has set the bytes of its range, and else it has changed nothing, although it is done byte after
byte: `Write.exact`. So after any writes memory holds what those that fit make of a map without end,
`memory_maps_bytes`.
-/

namespace Micro86

namespace Memory

/-- Writes bytes one after another until one fails. What was written before stays. -/
def writeAll (m : Memory) (a : Address) : List UInt8 → Except MemoryError Unit × Memory
  | [] => (.ok (), m)
  | b :: bytes =>
    match m.write8 a b with
    | .error e => (.error e, m)
    | .ok m => m.writeAll (a + 1) bytes

theorem writeAll_of_fits {m : Memory} {a : Address} {bytes : List UInt8}
    (fits : a.toNat + bytes.length ≤ memorySize) :
    m.writeAll a bytes = (.ok (), ⟨place m.cells a.toNat bytes⟩) := by
  induction bytes generalizing m a with
  | nil => rfl
  | cons b bytes ih =>
    rw [List.length_cons] at fits
    have inside : a.toNat < memorySize := by omega
    have next := toNat_succ inside
    simp only [writeAll, write8_eq, inside, ↓reduceIte]
    rw [ih (by omega), next]
    rfl

/-- Bytes are not written across the end of memory, nor across the last address. -/
theorem fits_of_writeAll {m m' : Memory} {a : Address} {bytes : List UInt8}
    (written : m.writeAll a bytes = (.ok (), m')) (some : bytes ≠ []) :
    a.toNat + bytes.length ≤ memorySize := by
  induction bytes generalizing m a with
  | nil => exact absurd rfl some
  | cons b bytes ih =>
    rw [List.length_cons]
    by_cases inside : a.toNat < memorySize
    · simp only [writeAll, write8_eq, inside, ↓reduceIte] at written
      by_cases last : bytes = []
      · subst last
        exact inside
      · have rest := ih written last
        rw [toNat_succ inside] at rest
        omega
    · simp only [writeAll, write8_eq, inside, ↓reduceIte] at written
      cases written

end Memory

/-- A write to memory. A block is not longer than an address can count. -/
inductive Write where
  | byte (address : Address) (value : UInt8)
  | word (address : Address) (value : Word)
  | block (address : Address) (bytes : List UInt8) (short : bytes.length < UInt64.size)

namespace Write

def address : Write → Address
  | .byte a _ | .word a _ | .block a _ _ => a

/-- The bytes to be written, of a word the low one first. -/
def bytes : Write → List UInt8
  | .byte _ value => [value]
  | .word _ value => [value.low, value.high]
  | .block _ bytes _ => bytes

/-- Whether the whole range lies in memory. -/
def Fits (w : Write) : Prop :=
  w.address.toNat + w.bytes.length ≤ memorySize

instance (w : Write) : Decidable w.Fits :=
  inferInstanceAs (Decidable (_ ≤ _))

/-- What memory answers. -/
def result (w : Write) (m : Memory) : Except MemoryError Memory :=
  match w with
  | .byte a value => m.write8 a value
  | .word a value => m.write16 a value
  | .block a bytes _ => m.load a bytes

/-- The same done in place, after the same checks: no byte that was written is taken back. -/
def inPlace (w : Write) (m : Memory) : Except MemoryError Unit × Memory :=
  match w with
  | .byte a value => m.writeAll a [value]
  | .word a value =>
    if (a + 1).toNat < memorySize then m.writeAll a [value.low, value.high]
    else (.error (.outOfBounds (a + 1)), m)
  | .block a bytes _ =>
    let finish := a + bytes.length.toUInt64
    if a ≤ finish ∧ finish.toNat ≤ memorySize then m.writeAll a bytes
    else (.error (.outOfBounds finish), m)

/-- The map after the write, where addresses have no end. -/
def onto (w : Write) (map : Nat → UInt8) : Nat → UInt8 := fun i =>
  if w.address.toNat ≤ i then w.bytes[i - w.address.toNat]?.getD (map i) else map i

variable {w : Write} {m m' : Memory}

theorem result_of_fits (fits : w.Fits) :
    w.result m = .ok ⟨Memory.place m.cells w.address.toNat w.bytes⟩ := by
  cases w with
  | byte a value => exact (Memory.write8_eq m a value).trans (if_pos fits)
  | word a value => exact (Memory.write16_eq m a value).trans (if_pos fits)
  | block a bytes short => exact (Memory.load_eq m a short).trans (if_pos fits)

/-- In place a write does what memory answers, and one that fails has changed nothing. -/
theorem inPlace_eq (w : Write) (m : Memory) :
    w.inPlace m =
      match w.result m with
      | .error e => (.error e, m)
      | .ok m' => (.ok (), m') := by
  by_cases fits : w.Fits
  · have written := Memory.writeAll_of_fits (m := m) fits
    rw [result_of_fits fits]
    cases w with
    | byte a value => exact written
    | word a value =>
      have inside : a.toNat < memorySize := Nat.lt_of_succ_lt fits
      have next : (a + 1).toNat < memorySize := by
        rw [toNat_succ inside]
        exact fits
      exact (if_pos next).trans written
    | block a bytes short => exact (if_pos ((Memory.block_fits_iff a short).mpr fits)).trans written
  · cases w with
    | byte a value =>
      have outside : ¬ a.toNat < memorySize := fits
      simp only [inPlace, Memory.writeAll, result, Memory.write8_eq, outside, ↓reduceIte]
    | word a value =>
      have cut : ¬ a.toNat + 1 < memorySize := fits
      simp only [inPlace, result, Memory.write16_eq, cut, ↓reduceIte]
      by_cases wraps : (a + 1).toNat < memorySize
      · -- Only the last address is outside while the next one is inside; its byte is not written.
        have outside : ¬ a.toNat < memorySize := by
          intro inside
          rw [toNat_succ inside] at wraps
          exact cut wraps
        simp only [wraps, ↓reduceIte, Memory.writeAll, Memory.write8_eq, outside]
      · simp only [wraps, ↓reduceIte]
    | block a bytes short =>
      have cut : ¬ a.toNat + bytes.length ≤ memorySize := fits
      simp only [inPlace, result, Memory.load_eq m a short, Memory.block_fits_iff a short, cut,
        ↓reduceIte]

/-- What a write does to memory, done in place: all of it or nothing. -/
structure Exact (w : Write) (m : Memory) : Prop where
  succeeds : (w.inPlace m).1 = .ok () ↔ w.Fits
  nothing : ¬ w.Fits → (w.inPlace m).2 = m
  range : w.Fits → ∀ i, (w.inPlace m).2.cells[i]? =
    if w.address.toNat ≤ i ∧ i < w.address.toNat + w.bytes.length then w.bytes[i - w.address.toNat]?
    else m.cells[i]?
  answers : w.result m = (w.inPlace m).1.map fun () => (w.inPlace m).2
  bytewise : ∀ m', w.result m = .ok m' → m.writeAll w.address w.bytes = (.ok (), m')
  gathered : w.bytes ≠ [] → ∀ m', m.writeAll w.address w.bytes = (.ok (), m') → w.result m = .ok m'

theorem exact_of_fits (fits : w.Fits) : w.Exact m := by
  have result := result_of_fits (m := m) fits
  have inPlace := inPlace_eq w m
  rw [result] at inPlace
  constructor
  · simp only [inPlace, fits]
  · intro cut
    exact absurd fits cut
  · intro _ i
    have within : i < w.address.toNat + w.bytes.length → i < memorySize :=
      fun before => Nat.lt_of_lt_of_le before fits
    simp only [inPlace, Memory.getElem?_place]
    by_cases there : w.address.toNat ≤ i ∧ i < w.address.toNat + w.bytes.length
    · rw [if_pos there, if_pos ⟨there.1, there.2, within there.2⟩]
    · rw [if_neg there, if_neg fun inside => there ⟨inside.1, inside.2.1⟩]
  · rw [result, inPlace]
    rfl
  · intro m' same
    rw [result] at same
    cases same
    exact Memory.writeAll_of_fits fits
  · intro _ m' written
    rw [Memory.writeAll_of_fits fits] at written
    cases written
    exact result

theorem exact_of_not_fits (cut : ¬ w.Fits) : w.Exact m := by
  obtain ⟨e, result⟩ : ∃ e, w.result m = .error e := by
    cases w with
    | byte a value => exact ⟨_, (Memory.write8_eq m a value).trans (if_neg cut)⟩
    | word a value => exact ⟨_, (Memory.write16_eq m a value).trans (if_neg cut)⟩
    | block a bytes short => exact ⟨_, (Memory.load_eq m a short).trans (if_neg cut)⟩
  have inPlace := inPlace_eq w m
  rw [result] at inPlace
  constructor
  · simp only [inPlace, cut, reduceCtorEq]
  · intro _
    rw [inPlace]
  · intro fits
    exact absurd fits cut
  · rw [result, inPlace]
    rfl
  · intro m' same
    rw [result] at same
    cases same
  · intro some m' written
    exact absurd (Memory.fits_of_writeAll written some) cut

theorem exact (w : Write) (m : Memory) : w.Exact m := by
  by_cases fits : w.Fits
  · exact exact_of_fits fits
  · exact exact_of_not_fits fits

end Write

/-- The map after those writes that fit. -/
def reference (map : Nat → UInt8) (ws : List Write) : Nat → UInt8 :=
  (ws.filter fun w => w.Fits).foldl (fun map w => w.onto map) map

theorem isOk_inPlace (w : Write) (m : Memory) : (w.inPlace m).1.isOk = decide w.Fits := by
  have succeeds := (w.exact m).succeeds
  cases answer : (w.inPlace m).1 with
  | error e =>
    rw [answer] at succeeds
    have cut : ¬ w.Fits := fun fits => nomatch succeeds.mpr fits
    rw [decide_eq_false cut]
    rfl
  | ok =>
    rw [decide_eq_true (succeeds.mp answer)]
    rfl

theorem reference_cons (map : Nat → UInt8) (w : Write) (ws : List Write) :
    reference map (w :: ws) = reference (if w.Fits then w.onto map else map) ws := by
  by_cases fits : w.Fits
  · simp [reference, fits]
  · simp [reference, fits]

namespace Memory

/-- The map that memory begins. -/
def contents (m : Memory) : Nat → UInt8 := fun i => m.cells[i]?.getD 0

/-- Writes one after another, each on what the one before it left, and what they answer. -/
def perform (m : Memory) : List Write → List (Except MemoryError Unit) × Memory
  | [] => ([], m)
  | w :: ws =>
    let (answer, m) := w.inPlace m
    let (answers, m) := m.perform ws
    (answer :: answers, m)

/-- What is read, byte by byte and word by word, is in the map. -/
structure Holds (m : Memory) (map : Nat → UInt8) : Prop where
  read8 : ∀ a, m.read8 a =
    if a.toNat < memorySize then .ok (map a.toNat) else .error (.outOfBounds a)
  read16 : ∀ a value, m.read16 a = .ok value ↔
    a.toNat + 1 < memorySize ∧ value = Word.ofBytes (map a.toNat) (map (a.toNat + 1))

/-- Memory that has the bytes of the map in its cells. -/
def Agrees (m : Memory) (map : Nat → UInt8) : Prop :=
  ∀ i, i < memorySize → m.cells[i]? = some (map i)

theorem agrees_contents (m : Memory) : m.Agrees m.contents := by
  intro i inside
  simp [contents, inside]

theorem Agrees.holds {m : Memory} {map : Nat → UInt8} (agrees : m.Agrees map) : m.Holds map := by
  have reads (a : Address) :
      m.read8 a = if a.toNat < memorySize then .ok (map a.toNat) else .error (.outOfBounds a) := by
    by_cases inside : a.toNat < memorySize
    · rw [if_pos inside]
      exact read8_eq_ok_iff_getElem?.mpr (agrees a.toNat inside)
    · rw [if_neg inside]
      exact read8_eq_error_iff.mpr ⟨Nat.le_of_not_lt inside, rfl⟩
  refine ⟨reads, ?_⟩
  intro a value
  rw [read16_eq_ok_iff, reads, reads]
  by_cases inside : a.toNat < memorySize
  · rw [toNat_succ inside]
    by_cases whole : a.toNat + 1 < memorySize
    · simp [inside, whole]
    · simp [whole]
  · have cut : ¬ a.toNat + 1 < memorySize := by omega
    simp [inside, cut]

/-- A write that fits does to memory what it does to the map. -/
theorem Agrees.inPlace {m : Memory} {map : Nat → UInt8} (agrees : m.Agrees map) (w : Write) :
    (w.inPlace m).2.Agrees (if w.Fits then w.onto map else map) := by
  intro i inside
  have exact := w.exact m
  by_cases fits : w.Fits
  · rw [if_pos fits, exact.range fits, Write.onto, agrees i inside]
    by_cases behind : w.address.toNat ≤ i
    · by_cases before : i < w.address.toNat + w.bytes.length
      · have there : i - w.address.toNat < w.bytes.length := by omega
        simp [behind, before, there]
      · have there : w.bytes[i - w.address.toNat]? = none := List.getElem?_eq_none (by omega)
        simp [before, there]
    · simp [behind]
  · rw [if_neg fits, exact.nothing fits]
    exact agrees i inside

theorem Agrees.perform {m : Memory} {map : Nat → UInt8} (agrees : m.Agrees map) (ws : List Write) :
    (m.perform ws).1.map Except.isOk = ws.map (fun w => decide w.Fits) ∧
      (m.perform ws).2.Agrees (reference map ws) := by
  induction ws generalizing m map with
  | nil => exact ⟨rfl, agrees⟩
  | cons w ws ih =>
    obtain ⟨answers, rest⟩ := ih (agrees.inPlace w)
    rw [reference_cons]
    refine ⟨?_, rest⟩
    simp only [Memory.perform, List.map_cons, answers, isOk_inPlace]

/-- Memory is a map of bytes. A write succeeds exactly if its range lies in memory, and it is done
wholly or not at all. After any writes each one has answered so, and what is read is what those that
fit have made of the map that was there before. -/
theorem memory_maps_bytes (m : Memory) (ws : List Write) :
    (∀ (w : Write) (m : Memory), w.Exact m) ∧
      (m.perform ws).1.map Except.isOk = ws.map (fun w => decide w.Fits) ∧
      (m.perform ws).2.Holds (reference m.contents ws) := by
  obtain ⟨answers, agrees⟩ := m.agrees_contents.perform ws
  exact ⟨Write.exact, answers, agrees.holds⟩

/-- A byte is written over the half of a word, then a block across the end of memory and a word
across the last address. -/
theorem memory_maps_bytes_overlap :
    ∃ answers m,
      empty.perform [.word 0x200 0xBEEF, .byte 0x201 0x12, .block 0xFFFF [1, 2] (by decide),
        .word 0xFFFFFFFFFFFFFFFF 7] = (answers, m) ∧
      answers.map Except.isOk = [true, true, false, false] ∧ m.read16 0x200 = .ok 0x12EF := by
  obtain ⟨-, answers, holds⟩ := memory_maps_bytes empty
    [.word 0x200 0xBEEF, .byte 0x201 0x12, .block 0xFFFF [1, 2] (by decide),
      .word 0xFFFFFFFFFFFFFFFF 7]
  refine ⟨_, _, rfl, answers.trans (by decide), ?_⟩
  exact (holds.read16 0x200 0x12EF).mpr ⟨by decide, rfl⟩

end Memory

end Micro86
