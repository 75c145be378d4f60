import Micro86.Proofs.Invariant

/-!
# Memory below the stack

Memory is written to by pushes only, and a push reaches no further down than SP says. So the bytes
that the stack has never come down to are those of the image: `image_outlives_shallow_stack`.
-/

namespace Micro86.Machine

variable {κ : Type} [Console κ]

theorem Step.kept {m m' : Machine κ} {r : Except Fault Unit} (step : Step m r m') {i : Nat}
    (low : i < memorySize - (m'.registers.word .sp).toNat) :
    m'.memory.cells[i]? = m.memory.cells[i]? := by
  rcases step.memory with same | ⟨_, value, _, -, sp, written⟩
  · rw [same]
  · have place := toNat_slot (m.registers.word .sp + 2)
    rw [sp, ← place] at low
    exact Memory.getElem?_of_write16 written (by omega) (by omega)

theorem Path.kept {s m : Machine κ} {past : List (Machine κ)} (path : Path s past m) {i : Nat}
    (low : ∀ a ∈ past ++ [m], i < memorySize - (a.registers.word .sp).toNat) :
    m.memory.cells[i]? = s.memory.cells[i]? := by
  induction path with
  | nil => rfl
  | cons step rest ih =>
    -- What a step writes depends on SP after it, so the bound is needed for the rest of the path
    -- only.
    have later (a : Machine κ) (mem : a ∈ _ ++ [_]) := low a (List.mem_cons_of_mem _ mem)
    rw [ih later, step.kept (later _ rest.head_mem)]

theorem Path.memory_eq {s m : Machine κ} {past : List (Machine κ)} (path : Path s past m)
    (calm : ∀ a ∈ past, ∀ displacement, a.instruction ≠ .ok (.call displacement)) :
    m.memory = s.memory := by
  induction path with
  | nil => rfl
  | cons step _ ih =>
    rw [ih fun a mem => calm a (List.mem_cons_of_mem _ mem)]
    rcases step.memory with same | ⟨displacement, _, call, _⟩
    · exact same
    · exact absurd call (calm _ List.mem_cons_self displacement)

/-- The values that SP has in a session, the last one included. -/
def depths (s : Machine κ) (requests : List Request) : List Nat :=
  (s.past requests ++ [s.session requests]).map fun a => (a.registers.word .sp).toNat

theorem exists_deepest (s : Machine κ) (requests : List Request) :
    ∃ deepest, (s.depths requests).max? = some deepest := by
  cases found : (s.depths requests).max? with
  | some deepest => exact ⟨deepest, rfl⟩
  | none =>
    rw [List.max?_eq_none_iff, depths, List.map_eq_nil_iff] at found
    exact absurd found (List.append_ne_nil_of_right_ne_nil _ (List.cons_ne_nil _ _))

theorem session_kept {s : Machine κ} {requests : List Request} {deepest i : Nat}
    (most : (s.depths requests).max? = some deepest) (low : i < memorySize - deepest) :
    (s.session requests).memory.cells[i]? = s.memory.cells[i]? := by
  obtain ⟨-, le⟩ := List.max?_eq_some_iff.mp most
  refine (session_path s requests).kept fun a mem => ?_
  have := le _ (List.mem_map_of_mem mem)
  omega

/-- SP never reaches the first two bytes of memory. -/
theorem deepest_le {s : Machine κ} (sound : Sound s) {requests : List Request} {deepest : Nat}
    (most : (s.depths requests).max? = some deepest) : deepest ≤ memorySize - 2 := by
  obtain ⟨reached, -⟩ := List.max?_eq_some_iff.mp most
  obtain ⟨a, mem, rfl⟩ := List.mem_map.mp reached
  have path := session_path s requests
  have even := (path.throughout (fun step sound => sound.step step) sound a mem).sp
  have := (a.registers.word .sp).toNat_lt
  rw [memorySize]
  omega

/-- A session changes no byte that the stack has not come down to: with `deepest` the largest value
that SP has had, all bytes below `memorySize - deepest` are as they were loaded. These are the first
two of memory in any case, and the whole image if the stack leaves room for it. Without a call
nothing changes. -/
theorem image_outlives_shallow_stack (name : String) {image : List UInt8} (console : κ)
    (fits : image.length ≤ maxImageSize) :
    ∃ s, load name image console = .ok s ∧
      (∀ requests, ∃ deepest, (s.depths requests).max? = some deepest ∧
        (∀ i, i < memorySize - deepest →
          (s.session requests).memory.cells[i]? = s.memory.cells[i]?) ∧
        (s.session requests).memory.cells[0]? = some 0 ∧
        (s.session requests).memory.cells[1]? = some 0 ∧
        (deepest ≤ memorySize - programStart.toNat - image.length →
          ∀ i (h : i < image.length),
            (s.session requests).memory.cells[programStart.toNat + i]? = some image[i])) ∧
      ∀ requests more,
        (∀ a ∈ (s.session requests).past more, ∀ displacement,
          a.instruction ≠ .ok (.call displacement)) →
        ((s.session requests).session more).memory = (s.session requests).memory := by
  refine ⟨_, load_eq name console fits, fun requests => ?_, fun requests more calm => ?_⟩
  · obtain ⟨deepest, most⟩ := exists_deepest (loaded name image console) requests
    have le := deepest_le (sound_loaded name image console) most
    have size : memorySize = 0x10000 := rfl
    have start : programStart.toNat = 0x100 := rfl
    have capacity : maxImageSize = 0xFF00 := rfl
    refine ⟨deepest, most, fun i low => session_kept most low, ?_, ?_, fun room i h => ?_⟩
    · rw [session_kept most (by omega), cells_loaded _ _ _ (by decide), if_neg (by decide)]
    · rw [session_kept most (by omega), cells_loaded _ _ _ (by decide), if_neg (by decide)]
    · rw [session_kept most (by omega), cells_loaded _ _ _ (by omega), if_pos (by omega)]
      simp [h]
  · exact (session_path _ more).memory_eq calm

/-- A call, which pushes two bytes at the other end of memory. -/
theorem image_outlives_shallow_stack_call :
    ∃ s, load "a.com" [0xE8, 0, 0] (Buffer.ofInput []) = .ok s ∧ s.depths [.step] = [0, 2] ∧
      (s.session [.step]).memory.cells[0x100]? = some 0xE8 := by
  obtain ⟨s, load, holds, -⟩ := image_outlives_shallow_stack "a.com" (Buffer.ofInput [])
    (show [0xE8, 0, 0].length ≤ maxImageSize by decide)
  have eq := eq_loaded load
  have sp : s.registers.word .sp = 0 := by
    rw [eq, registers_loaded]
    decide
  have call : s.instruction = .ok (.call 0) := by
    rw [eq]
    exact fetch_loaded_call _ _ _ _
  obtain ⟨m, step⟩ : ∃ m, Step s (.ok ()) m := by
    rw [eq]
    exact exists_step_loaded_call _ _ _ _
  have grown := step.confined.call _ call
  rw [sp] at grown
  have depths : s.depths [.step] = [0, 2] := by
    have there : s.session [.step] = m := congrArg Prod.snd step.step_eq
    simp only [Machine.depths, there, past, origins, List.append_nil, List.cons_append,
      List.nil_append, List.map_cons, List.map_nil, sp, grown]
    rfl
  obtain ⟨deepest, most, -, -, -, intact⟩ := holds [.step]
  rw [depths] at most
  cases most
  exact ⟨s, load, depths, intact (by decide) 0 (by decide)⟩

end Micro86.Machine
