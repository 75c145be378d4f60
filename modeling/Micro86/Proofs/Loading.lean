import Micro86.Image
import Micro86.Proofs.Fetch

/-!
# The machine that a program is loaded into

Every image that fits is loaded, and the machine is `loaded`.
-/

namespace Micro86.Machine

variable {κ : Type}

/-- The machine with an image at the program start. -/
def loaded (name : String) (image : List UInt8) (console : κ) : Machine κ :=
  { start console with
    memory := ⟨Memory.place Memory.empty.cells programStart.toNat image⟩
    program := name }

theorem registers_loaded (name : String) (image : List UInt8) (console : κ) :
    (loaded name image console).registers = Registers.zero.setWord .ip programStart.toUInt16 :=
  rfl

theorem ip_loaded (name : String) (image : List UInt8) (console : κ) :
    (loaded name image console).ip = programStart :=
  rfl

theorem load_eq (name : String) {image : List UInt8} (console : κ)
    (fits : image.length ≤ maxImageSize) :
    load name image console = .ok (loaded name image console) := by
  have room : programStart.toNat + image.length ≤ memorySize := by
    have : programStart.toNat ≤ memorySize := by decide
    simp only [maxImageSize] at fits
    omega
  have short : image.length < UInt64.size := by
    simp only [memorySize] at room
    simp only [UInt64.size]
    omega
  simp only [load, Nat.not_lt_of_le fits, ↓reduceIte, Memory.load_eq _ _ short, room]
  rfl

theorem eq_loaded {name : String} {image : List UInt8} {console : κ} {s : Machine κ}
    (h : load name image console = .ok s) : s = loaded name image console := by
  by_cases fits : image.length ≤ maxImageSize
  · rw [load_eq name console fits] at h
    exact (Except.ok.inj h).symm
  · rw [load, if_pos (Nat.lt_of_not_le fits)] at h
    cases h

/-- The image, with zeros around it. -/
theorem cells_loaded (name : String) (image : List UInt8) (console : κ) {i : Nat}
    (inside : i < memorySize) :
    (loaded name image console).memory.cells[i]? =
      some (if programStart.toNat ≤ i then image[i - programStart.toNat]?.getD 0 else 0) := by
  simp only [loaded, Vector.getElem?_eq_getElem inside, Memory.getElem_place]
  simp [Memory.empty]

theorem image_loaded (name : String) {image : List UInt8} (console : κ)
    (fits : image.length ≤ maxImageSize) {i : Nat} (lt : i < image.length) :
    (loaded name image console).memory.cells[programStart.toNat + i]? = image[i]? := by
  have room : programStart.toNat ≤ memorySize := by decide
  simp only [maxImageSize] at fits
  rw [cells_loaded _ _ _ (by omega), if_pos (Nat.le_add_right _ _), Nat.add_sub_cancel_left,
    List.getElem?_eq_getElem lt, Option.getD_some]

/-- What is read from the program start on. -/
theorem read8_loaded (name : String) (image : List UInt8) (console : κ) {a : Address}
    (inside : a.toNat < memorySize) (behind : programStart.toNat ≤ a.toNat) :
    (loaded name image console).memory.read8 a =
      .ok (image[a.toNat - programStart.toNat]?.getD 0) := by
  rw [Memory.read8_eq_ok_iff_getElem?, cells_loaded _ _ _ inside, if_pos behind]

theorem fetch_loaded_call (name : String) (displacement : UInt8) (image : List UInt8)
    (console : κ) :
    Instruction.fetch (loaded name (0xE8 :: displacement :: image) console).memory programStart =
      .ok (.call displacement.toInt8) := by
  rw [Instruction.fetch_call_iff, cells_loaded _ _ _ (by decide), cells_loaded _ _ _ (by decide)]
  exact ⟨rfl, displacement, rfl, rfl⟩

end Micro86.Machine
