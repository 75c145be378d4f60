import Micro86.Console

/-!
The standard streams of a process as a console.

Input is fetched from the host in pieces, whenever all that was fetched has been read. What is
written is sent to the host at once, and held back only if the host does not take it.
-/

namespace Micro86

structure Streams where
  /-- Input that was fetched and has not been read. -/
  fetched : List UInt8 := []
  /-- What the host answers when more input is fetched, one answer after another: some bytes, no
  bytes where the input ends, or why there are none. Then the input has ended for good. -/
  arrivals : List (Except String (List UInt8)) := []
  /-- Output that was not sent yet. -/
  held : Array UInt8 := #[]
  sent : Array UInt8 := #[]
  /-- What the host answers when output is sent: nothing, or why it was not taken.
  Then all is taken. -/
  refusals : List (Option String) := []

namespace Streams

/-- Makes sure that there is something to read, if the host has more. -/
def fetch (s : Streams) : Except String Unit × Streams :=
  match s.fetched, s.arrivals with
  | [], .ok fetched :: arrivals => (.ok (), { s with fetched, arrivals })
  | [], .error text :: arrivals => (.error text, { s with arrivals })
  | _, _ => (.ok (), s)

def readByte (s : Streams) : Except String (Option UInt8) × Streams :=
  match s.fetch with
  | (.error text, s) => (.error text, s)
  | (.ok (), s) =>
    match s.fetched with
    | [] => (.ok none, s)
    | byte :: fetched => (.ok (some byte), { s with fetched })

def send (s : Streams) : Except String Unit × Streams :=
  match s.refusals with
  | some text :: refusals => (.error text, { s with refusals })
  | _ => (.ok (), { s with held := #[], sent := s.sent ++ s.held, refusals := s.refusals.tail })

def writeBytes (s : Streams) (bytes : List UInt8) : Except String Unit × Streams :=
  { s with held := bytes.foldl Array.push s.held }.send

instance : Console Streams where
  readByte := readByte
  writeBytes := writeBytes

/-- All that is still to be read, if the host does not fail. -/
def input (s : Streams) : List UInt8 :=
  s.fetched ++ s.arrivals.flatMap fun arrival => arrival.toOption.getD []

/-- All that was written. What is held back is sent when the process ends. -/
def output (s : Streams) : Array UInt8 :=
  s.sent ++ s.held

/-- Streams on which no call fails, and whose input does not end before its end. -/
structure Works (s : Streams) : Prop where
  arrives : ∀ arrival ∈ s.arrivals, ∃ byte more, arrival = .ok (byte :: more)
  takes : ∀ refusal ∈ s.refusals, refusal = none

variable {s : Streams}

/-- A byte that is read is the next one of the input, however this arrives. -/
theorem Works.readByte_eq (works : s.Works) :
    ∃ t, s.readByte = (.ok s.input.head?, t) ∧ t.input = s.input.tail ∧ t.output = s.output ∧
      t.Works := by
  obtain ⟨fetched, arrivals, held, sent, refusals⟩ := s
  cases fetched with
  | cons byte more => exact ⟨_, rfl, rfl, rfl, works.arrives, works.takes⟩
  | nil =>
    cases arrivals with
    | nil => exact ⟨_, rfl, rfl, rfl, works⟩
    | cons arrival arrivals =>
      obtain ⟨byte, more, rfl⟩ := works.arrives arrival List.mem_cons_self
      refine ⟨_, rfl, rfl, rfl, ?_, works.takes⟩
      intro later mem
      exact works.arrives later (List.mem_cons_of_mem _ mem)

theorem Works.send_eq (works : s.Works) :
    ∃ t, s.send = (.ok (), t) ∧ t.input = s.input ∧ t.output = s.output ∧ t.Works := by
  obtain ⟨fetched, arrivals, held, sent, refusals⟩ := s
  cases refusals with
  | nil => exact ⟨_, rfl, rfl, Array.append_empty, works.arrives, nofun⟩
  | cons refusal refusals =>
    obtain rfl := works.takes refusal List.mem_cons_self
    refine ⟨_, rfl, rfl, Array.append_empty, works.arrives, ?_⟩
    intro later mem
    exact works.takes later (List.mem_cons_of_mem _ mem)

/-- What is written comes after what was written before. -/
theorem Works.writeBytes_eq (works : s.Works) (bytes : List UInt8) :
    ∃ t, s.writeBytes bytes = (.ok (), t) ∧ t.input = s.input ∧
      t.output = bytes.foldl Array.push s.output ∧ t.Works := by
  have holds : Works { s with held := bytes.foldl Array.push s.held } :=
    ⟨works.arrives, works.takes⟩
  obtain ⟨t, sends, input, output, still⟩ := holds.send_eq
  refine ⟨t, sends, input, ?_, still⟩
  rw [output]
  simp [Streams.output, Array.append_assoc]

end Streams

end Micro86
