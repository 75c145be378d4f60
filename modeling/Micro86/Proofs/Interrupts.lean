import Micro86.Proofs.Effects
import Micro86.Proofs.Faults

/-!
# What an interrupt does

Which `INT` selects which service, `serving?_eq_some_iff`, and what a step on a buffer makes of the
console, the status and AL, told by the service: `Step.handled`. All else that a step does leaves
these as they are. `exists_callsFor`: there is a way to call for each service.
-/

namespace Micro86

/-- In a table whose keys are distinct each entry is found. -/
theorem lookup_eq_some_iff_mem {α β : Type} [BEq α] [LawfulBEq α] {table : List (α × β)}
    (distinct : (table.map Prod.fst).Nodup) {key : α} {value : β} :
    table.lookup key = some value ↔ (key, value) ∈ table := by
  induction table with
  | nil => simp
  | cons entry table ih =>
    obtain ⟨k, v⟩ := entry
    obtain ⟨fresh, distinct⟩ := List.nodup_cons.mp distinct
    rw [List.lookup_cons, List.mem_cons, Prod.mk.injEq]
    by_cases same : key = k
    · subst same
      have absent : (key, value) ∉ table := fun mem => fresh (List.mem_map.mpr ⟨_, mem, rfl⟩)
      simp [absent, eq_comm]
    · have other : (key == k) = false := beq_false_of_ne same
      simp only [other, same, false_and, false_or]
      exact ih distinct

namespace Service

/-- The values of AH for which `INT 21h` selects a service. -/
def selectors : Service → List UInt8
  | .terminate => [0x00]
  | .readChar => [0x01, 0x07, 0x08]
  | .writeCharEcho => [0x02]
  | .writeChar => [0x05]
  | .directConsole => [0x06]
  | .printString => [0x09]
  | .exit => [0x4C]

theorem mem_dos_iff {selector : UInt8} {s : Service} :
    (selector, s) ∈ dos ↔ selector ∈ s.selectors := by
  cases s <;> simp [dos, selectors]

theorem vector_eq_iff {number : UInt8} {v : Nat} :
    vector number = v ↔ number.toNat = vectorBase.toNat + v := by
  rw [vector]
  omega

/-- The table of services read from the other side. -/
theorem select?_eq_some_iff {number selector : UInt8} {s : Service} :
    select? number selector = some s ↔
      number = 0x20 ∧ s = .terminate ∨ number = 0x21 ∧ selector ∈ s.selectors := by
  have first : vector number = 0 ↔ number = 0x20 := by
    rw [← UInt8.toNat_inj]
    exact vector_eq_iff (v := 0)
  have second : vector number = 1 ↔ number = 0x21 := by
    rw [← UInt8.toNat_inj]
    exact vector_eq_iff (v := 1)
  have found : dos.lookup selector = some s ↔ selector ∈ s.selectors := by
    rw [lookup_eq_some_iff_mem (by decide), mem_dos_iff]
  simp only [select?, first, second]
  by_cases terminates : number = 0x20
  · simp [terminates, eq_comm]
  · by_cases table : number = 0x21
    · simp [table, found]
    · simp [terminates, table]

end Service

namespace Machine

variable {κ : Type}

/-- The number of the `INT` that comes next. -/
def interrupt? (m : Machine κ) : Option UInt8 :=
  match m.instruction with
  | .ok (.int number) => some number
  | _ => none

/-- AH, if an `INT 21h` comes next. -/
def selector? (m : Machine κ) : Option UInt8 :=
  if m.interrupt? = some 0x21 then some (m.registers.byte .ah) else none

/-- The service that comes next. -/
def serving? (m : Machine κ) : Option Service :=
  m.interrupt?.bind m.service?

theorem interrupt?_eq_some_iff {m : Machine κ} {number : UInt8} :
    m.interrupt? = some number ↔ m.instruction = .ok (.int number) := by
  fun_cases interrupt? m with
  | case1 n next => simp [next]
  | case2 other =>
    simp only [reduceCtorEq, false_iff]
    exact other number

theorem selector?_eq_some_iff {m : Machine κ} {ah : UInt8} :
    m.selector? = some ah ↔ m.interrupt? = some 0x21 ∧ m.registers.byte .ah = ah := by
  rw [selector?]
  by_cases h : m.interrupt? = some 0x21 <;> simp [h]

theorem serving?_eq_some_iff {m : Machine κ} {s : Service} :
    m.serving? = some s ↔
      m.interrupt? = some 0x20 ∧ s = .terminate ∨ ∃ ah ∈ s.selectors, m.selector? = some ah := by
  simp only [serving?, service?, Option.bind_eq_some_iff, Service.select?_eq_some_iff,
    selector?_eq_some_iff]
  constructor
  · rintro ⟨number, next, ⟨rfl, same⟩ | ⟨rfl, listed⟩⟩
    · exact .inl ⟨next, same⟩
    · exact .inr ⟨_, listed, next, rfl⟩
  · rintro (⟨next, same⟩ | ⟨ah, listed, next, rfl⟩)
    · exact ⟨_, next, .inl ⟨rfl, same⟩⟩
    · exact ⟨_, next, .inr ⟨rfl, listed⟩⟩

/-- Whether a character is read next. -/
def receives (m : Machine κ) : Bool :=
  m.selector? ∈ [some 0x01, some 0x07, some 0x08]

/-- Whether a character is written next. -/
def writesChar (m : Machine κ) : Bool :=
  m.selector? ∈ [some 0x02, some 0x05, some 0x06]

/-- Whether anything is written next. -/
def speaks (m : Machine κ) : Bool :=
  m.writesChar ∨ m.selector? = some 0x09

/-- Whether the character that is written next is returned in AL. -/
def echoes (m : Machine κ) : Bool :=
  m.selector? ∈ [some 0x02, some 0x06]

/-- Whether the program stops next. -/
def terminates (m : Machine κ) : Bool :=
  m.interrupt? = some 0x20 ∨ m.selector? ∈ [some 0x00, some 0x4C]

theorem receives_iff {m : Machine κ} : m.receives ↔ m.serving? = some .readChar := by
  rw [serving?_eq_some_iff]
  simp [receives, Service.selectors]

theorem echoes_iff {m : Machine κ} :
    m.echoes ↔ m.serving? = some .writeCharEcho ∨ m.serving? = some .directConsole := by
  simp [echoes, serving?_eq_some_iff, Service.selectors]

theorem terminates_iff {m : Machine κ} :
    m.terminates ↔ m.serving? = some .terminate ∨ m.serving? = some .exit := by
  simp [terminates, serving?_eq_some_iff, Service.selectors, or_assoc]

theorem speaks_of_written {m : Machine κ} {s : Service} {bytes : List UInt8}
    (serving : m.serving? = some s) (writes : m.written? s = some bytes) : m.speaks := by
  rcases serving?_eq_some_iff.mp serving with ⟨-, rfl⟩ | ⟨ah, listed, selector⟩
  · cases writes
  · cases s with
    | writeCharEcho | writeChar | directConsole | printString =>
      obtain rfl := List.mem_singleton.mp listed
      simp [speaks, writesChar, selector]
    | terminate | readChar | exit => cases writes

/-- The code with which a service stops the program, if it does. -/
def stopCode? (m : Machine κ) : Service → Option UInt8
  | .terminate => some 0
  | .exit => some (m.registers.byte .al)
  | .readChar | .writeCharEcho | .writeChar | .directConsole | .printString => none

/-- What a service returns in AL, if it does. -/
def answer? (m : Machine Buffer) : Service → Option UInt8
  | .readChar => some (m.console.unread.head?.getD endOfInput)
  | .writeCharEcho | .directConsole => some (m.registers.byte .dl)
  | .terminate | .writeChar | .printString | .exit => none

/-- What a service, or none, makes of the console, the status and AL. -/
structure Handled (m : Machine Buffer) (s? : Option Service) (m' : Machine Buffer) : Prop where
  unread : m'.console.unread =
    if s? = some .readChar then m.console.unread.tail else m.console.unread
  output : m'.console.output.toList = m.console.output.toList ++ (s?.bind m.written?).getD []
  status : m'.status = ((s?.bind m.stopCode?).map .halted).getD m.status
  al : m'.registers.byte .al = (s?.bind m.answer?).getD (m.registers.byte .al)

namespace Handled

variable {m m' : Machine Buffer} {s? : Option Service}

/-- Moving on changes IP only. -/
theorem arrive (h : Handled m s? m') (ip : Address) : Handled m s? (m'.arrive ip) where
  unread := h.unread
  output := h.output
  status := h.status
  al := (m'.registers.byte_setWord_of_ne (by decide) _).trans h.al

theorem none (console : m'.console = m.console) (status : m'.status = m.status)
    (al : m'.registers.byte .al = m.registers.byte .al) : Handled m none m' where
  unread := congrArg Buffer.unread console
  output := by simp [console]
  status := status
  al := al

end Handled

theorem Serves.handled {m m' : Machine Buffer} {s : Service} (serves : Serves m s (.ok ()) m') :
    Handled m (some s) m' := by
  have returned (rs : Registers) (byte : UInt8) : (rs.setByte .al byte).byte .al = byte :=
    rs.byte_setByte .al .al byte
  cases serves with
  | terminate | exit => exact ⟨rfl, (List.append_nil _).symm, rfl, rfl⟩
  | received answer =>
    rw [m.console.readByte_eq] at answer
    cases answer
    constructor
    · exact m.console.unread_readByte
    · exact (congrArg Array.toList m.console.output_readByte).trans (List.append_nil _).symm
    · rfl
    · rw [m.console.byte_readByte]
      exact returned _ _
  | wrote writes answer =>
    rw [m.console.writeBytes_eq] at answer
    cases answer
    cases s with
    | writeCharEcho | directConsole =>
      cases writes
      exact ⟨rfl, m.console.output_write _, rfl, returned _ _⟩
    | writeChar | printString =>
      cases writes
      exact ⟨rfl, m.console.output_write _, rfl, rfl⟩
    | terminate | readChar | exit => cases writes

theorem serving?_of_selects {m : Machine κ} {number : UInt8} {s : Service}
    (next : m.instruction = .ok (.int number)) (selects : m.service? number = some s) :
    m.serving? = some s :=
  Option.bind_eq_some_iff.mpr ⟨number, interrupt?_eq_some_iff.mpr next, selects⟩

theorem serving?_eq_none {a : Machine κ} {i : Instruction} (next : a.instruction = .ok i)
    (other : ∀ number, i ≠ .int number) : a.serving? = none := by
  cases served : a.serving? with
  | none => rfl
  | some s =>
    obtain ⟨number, int, -⟩ := Option.bind_eq_some_iff.mp served
    cases next.symm.trans (interrupt?_eq_some_iff.mp int)
    exact absurd rfl (other number)

/-- A step on a buffer does to the console, the status and AL what the service does
that comes next. -/
theorem Step.handled {a b : Machine Buffer} (step : Step a (.ok ()) b) :
    Handled a a.serving? b := by
  cases step with
  | nop next | jmp next =>
    rw [serving?_eq_none next nofun]
    apply Handled.arrive
    exact Handled.none rfl rfl rfl
  | movAh next =>
    rw [serving?_eq_none next nofun]
    apply Handled.arrive
    exact Handled.none rfl rfl (a.registers.byte_setByte .ah .al _)
  | movDx next | ret next =>
    rw [serving?_eq_none next nofun]
    apply Handled.arrive
    exact Handled.none rfl rfl (a.registers.byte_setWord_of_ne (by decide) _)
  | call next push =>
    obtain ⟨sp, memory, room, written, rfl⟩ := push_ok_iff.mp push
    rw [serving?_eq_none next nofun]
    apply Handled.arrive
    exact Handled.none rfl rfl (a.registers.byte_setWord_of_ne (by decide) _)
  | int next selects serves =>
    rw [serving?_of_selects next selects]
    exact serves.handled.arrive _

/-- The machine with a selector in AH, behind the instruction that loads it. -/
def selecting (m : Machine κ) (selector : UInt8) : Machine κ :=
  (m.setByte .ah selector).arrive (m.ip + 2)

/-- Two instructions that call for a service: AH is loaded and `INT 21h` follows. -/
structure CallsFor (m : Machine Buffer) (selector : UInt8) (s : Service) (m' : Machine Buffer) :
    Prop where
  silent : m.selector? = none
  load : Step m (.ok ()) (m.selecting selector)
  selects : (m.selecting selector).selector? = some selector
  step : Step (m.selecting selector) (.ok ()) m'
  handled : Handled (m.selecting selector) (some s) m'
  memory : m'.memory = m.memory
  ip : m'.ip = m.ip + 4
  steps : m'.steps = m.steps + 2

theorem exists_callsFor {m : Machine Buffer} {selector : UInt8} {s : Service}
    (listed : selector ∈ s.selectors)
    (code : ∀ i, i < 4 → m.memory.cells[m.ip.toNat + i]? = [0xB4, selector, 0xCD, 0x21][i]?) :
    ∃ m', CallsFor m selector s m' := by
  have load : m.instruction = .ok (.movAh selector) := by
    rw [instruction, Instruction.fetch_byte_iff (o := .movAh) rfl fun _ => rfl]
    exact ⟨code 0 (by decide), selector, code 1 (by decide), rfl⟩
  have behind : (m.ip + 2).toNat = m.ip.toNat + 2 :=
    Instruction.toNat_next (i := .movAh selector) (Instruction.inside_of_fetch load)
  have int : (m.selecting selector).instruction = .ok (.int 0x21) := by
    have cell (i : Nat) (lt : i < 2) :
        m.memory.cells[(m.ip + 2).toNat + i]? = [0xB4, selector, 0xCD, 0x21][2 + i]? := by
      rw [behind, Nat.add_assoc]
      exact code (2 + i) (by omega)
    exact Instruction.fetch_int_iff.mpr ⟨cell 0 (by decide), cell 1 (by decide)⟩
  have ah : (m.selecting selector).registers.byte .ah = selector :=
    (Registers.byte_setWord_of_ne _ (by decide) _).trans (m.registers.byte_setByte .ah .ah _)
  have selects : (m.selecting selector).service? 0x21 = some s := by
    rw [service?, ah, Service.select?_eq_some_iff]
    exact .inr ⟨rfl, listed⟩
  obtain ⟨r, served, serves⟩ := exists_serves (m.selecting selector) s
  obtain rfl := serves.buffer
  obtain ⟨memory, ip, steps, -⟩ := serves.frame
  exact ⟨_, {
    silent := by simp [selector?, interrupt?, load]
    load := .movAh load
    selects := selector?_eq_some_iff.mpr ⟨interrupt?_eq_some_iff.mpr int, ah⟩
    step := .int int selects serves
    handled := serves.handled.arrive _
    memory := memory
    ip := UInt64.add_assoc m.ip 2 2
    steps := (congrArg (· + 1) steps).trans (UInt64.add_assoc m.steps 1 1) }⟩

end Machine

end Micro86
