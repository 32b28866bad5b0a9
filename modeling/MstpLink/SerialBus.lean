import MstpLink.RunLoop
import MstpLink.FramerBuffer

/-! Several `MstpSimulator.run` loops on one RS-485 bus, at the level of bytes.

Every station writes its frames with `send_frame` and reads the bus with `process_rx`.
The wire carries the bytes of every `send_frame` call in the order they went out, and
every station reads all of them, its own included, as the frame-level bus of `Bus.lean`
delivers every frame to every station. When a station reads, and how many of the bytes
written so far it finds waiting, is left to a schedule: any station, any number of
bytes, in any interleaving. A `send_frame` call puts its bytes on the wire at once,
after everything written before it: writes do not overlap.

## Main results

* `bus_stations_follow_writes`: in every state reachable under any schedule, every
  station is `handle_frame` applied to the first frames written to the bus, in the
  order they were written. All stations therefore agree on the order of the frames, and
  none handles a frame that no station wrote.
* `bus_station_catches_up`: from every reachable state, a station that reads what has
  been written and then passes idly has handled exactly the frames written.

## Proof strategy

A station tracks the wire (`Tracks`) when the frames it has handled, followed by what its
buffer and the bytes it has not read yield with any continuation, are the frames of the
wire with that continuation. A pass keeps this (`Tracks.pass`, from
`drain_append_parseFrame`), and so does writing more to the wire (`Tracks.append`),
since the statement is over every continuation. A pass writes at most one answer to the
frame it parsed, and its payload, like every payload `parse_frame` returns, fits the
16-bit length field; so the bytes of the wire decode to the frames written
(`drain_sent_bytes`). -/

namespace MstpLink.Simulator

/-! ### Payloads fit the length field -/

theorem parseAt_fits {u : List UInt8} {f : Frame} (parsed : (parseAt u).1 = some f) :
    (f.data.getD []).length ≤ 65535 := by
  unfold parseAt at parsed
  split at parsed
  · next lenHi lenLo _ body =>
    have field := lengthField_lt lenHi lenLo
    dsimp only at parsed
    split_ifs at parsed <;> cases parsed
    · exact (List.length_take_le _ _).trans (by omega)
    · exact Nat.zero_le _
  · cases parsed

theorem parseFrame_fits {b : List UInt8} {f : Frame} (parsed : (parseFrame b).1 = some f) :
    (f.data.getD []).length ≤ 65535 := by
  unfold parseFrame at parsed
  split at parsed
  · cases parsed
  · split at parsed
    · cases parsed
    · exact parseAt_fits parsed

/-- What one pass of the loop writes: nothing, or one answer to the frame it parsed, whose
payload is none or the payload of that frame. -/
theorem RunState.pass_written (r : RunState) (waiting : List UInt8) :
    ∀ s ∈ (r.pass waiting).station.ser.drop r.station.ser.length,
      s.data = none ∨ ∃ f, (parseFrame (r.rxBuffer ++ waiting)).1 = some f ∧ s.data = f.data := by
  rw [RunState.pass_eq]
  cases parsed : (parseFrame (r.rxBuffer ++ waiting)).1 with
  | none => simp [MstpSimulator.handleFrames]
  | some f =>
    intro s mem
    rcases MstpSimulator.handleFrame_written r.station f with nothing | ⟨-, s', answer, one⟩
    · simp only [Option.toList, MstpSimulator.handleFrames, List.foldl, nothing] at mem
      cases mem
    · simp only [Option.toList, MstpSimulator.handleFrames, List.foldl, one, List.mem_singleton] at mem
      subst mem
      rcases answer with ⟨-, rfl⟩ | ⟨-, rfl⟩ | ⟨-, rfl⟩
      · exact .inl (MstpSimulator.tokenPass_data _)
      · exact .inl rfl
      · exact .inr ⟨f, rfl, rfl⟩

/-- What one pass of the loop writes fits the length field. -/
theorem RunState.pass_written_fits (r : RunState) (waiting : List UInt8) :
    ∀ s ∈ (r.pass waiting).station.ser.drop r.station.ser.length, (s.data.getD []).length ≤ 65535 := by
  intro s mem
  rcases r.pass_written waiting s mem with none | ⟨f, parsed, same⟩
  · rw [none]; exact Nat.zero_le _
  · rw [same]; exact parseFrame_fits parsed

/-! ### The bus -/

/-- A station on the bus: its loop, and how many bytes of the wire it has read. -/
structure Node where
  loop : RunState
  read : Nat

/-- The bus of `n` stations: each station, and every `send_frame` call so far, oldest
first. -/
structure SerialBus (n : Nat) where
  nodes : Fin n → Node
  log : List Sent

namespace SerialBus

variable {n : Nat}

/-- The bytes on the wire: those of every `send_frame` call, in order. -/
def bytes (bus : SerialBus n) : List UInt8 := (bus.log.map Sent.bytes).flatten

/-- Station `i` makes one pass of its loop and finds waiting the next `k` bytes it has
not read (fewer when fewer have been written); what the pass writes goes on the wire
after everything written before. -/
def step (bus : SerialBus n) (i : Fin n) (k : Nat) : SerialBus n :=
  let node := bus.nodes i
  let waiting := (bus.bytes.drop node.read).take k
  let loop := node.loop.pass waiting
  { nodes := Function.update bus.nodes i ⟨loop, node.read + waiting.length⟩,
    log := bus.log ++ loop.station.ser.drop node.loop.station.ser.length }

/-- The bus under a schedule, each entry a station and how many bytes it finds waiting. -/
def run (bus : SerialBus n) (schedule : List (Fin n × Nat)) : SerialBus n :=
  schedule.foldl (fun bus e => bus.step e.1 e.2) bus

/-- The stations `stations` with empty buffers and nothing read, and the frames `log`
already on the wire. -/
def start (stations : Fin n → MstpSimulator) (log : List Sent) : SerialBus n :=
  ⟨fun i => ⟨⟨stations i, []⟩, 0⟩, log⟩

theorem bytes_step (bus : SerialBus n) (i : Fin n) (k : Nat) :
    (bus.step i k).bytes = bus.bytes ++
      (((bus.nodes i).loop.pass ((bus.bytes.drop (bus.nodes i).read).take k)).station.ser.drop
        (bus.nodes i).loop.station.ser.length |>.map Sent.bytes).flatten := by
  simp only [bytes, step, List.map_append, List.flatten_append]

end SerialBus

/-! ### Each station tracks the wire -/

/-- `handled` are the frames `node` has handled since `st`: its station is `st` after them,
and they, followed by what its buffer and the bytes it has not read yield with any
continuation, are the frames of `wire` with that continuation. -/
def Handled (st : MstpSimulator) (wire : List UInt8) (node : Node) (handled : List Frame) : Prop :=
  node.loop.station = st.handleFrames handled ∧
    ∀ c, handled ++ (drain (node.loop.rxBuffer ++ wire.drop node.read ++ c)).1 = (drain (wire ++ c)).1

/-- `node` has read a prefix of `wire` and handled some frames of it since `st`. -/
structure Tracks (st : MstpSimulator) (wire : List UInt8) (node : Node) : Prop where
  read_le : node.read ≤ wire.length
  buffer_le : node.loop.rxBuffer.length ≤ node.read
  handled : ∃ handled, Handled st wire node handled

theorem tracks_start (st : MstpSimulator) (wire : List UInt8) : Tracks st wire ⟨⟨st, []⟩, 0⟩ :=
  ⟨Nat.zero_le _, le_refl _, [], rfl, fun c => by simp⟩

section Handled

variable {st : MstpSimulator} {wire : List UInt8} {node : Node} {handled : List Frame}

/-- What a node has handled is determined by the node and the wire. -/
theorem Handled.unique {other : List Frame} (h : Handled st wire node handled)
    (h' : Handled st wire node other) : handled = other :=
  List.append_cancel_right ((h.2 []).trans (h'.2 []).symm)

/-- What a node has handled begins the frames of the wire. -/
theorem Handled.begins_drain (h : Handled st wire node handled) : handled <+: (drain wire).1 :=
  ⟨_, by simpa only [List.append_nil] using h.2 []⟩

theorem Handled.append (h : Handled st wire node handled) (le : node.read ≤ wire.length)
    (more : List UInt8) : Handled st (wire ++ more) node handled := by
  refine ⟨h.1, fun c => ?_⟩
  have := h.2 (more ++ c)
  rw [List.drop_append_of_le_length le]
  simp only [List.append_assoc] at this ⊢
  exact this

/-- The bytes a pass finds waiting, then those after them, are what the station had not
read. -/
theorem take_append_drop_read (wire : List UInt8) (read k : Nat) :
    (wire.drop read).take k ++ wire.drop (read + ((wire.drop read).take k).length) = wire.drop read := by
  rw [← List.drop_drop]
  by_cases fits : k ≤ (wire.drop read).length
  · rw [List.length_take_of_le fits, List.take_append_drop]
  · rw [List.take_of_length_le (by omega), List.drop_length, List.append_nil]

/-- One pass of a station's loop handles the frame it parses, if any. -/
theorem Handled.pass (h : Handled st wire node handled) (k : Nat) :
    Handled st wire ⟨node.loop.pass ((wire.drop node.read).take k),
      node.read + ((wire.drop node.read).take k).length⟩
      (handled ++ (parseFrame (node.loop.rxBuffer ++ (wire.drop node.read).take k)).1.toList) := by
  refine ⟨?_, fun c => ?_⟩
  · rw [RunState.pass_eq, h.1, MstpSimulator.handleFrames_append]
  · rw [RunState.pass_eq]
    dsimp only
    simp only [List.append_assoc]
    rw [← drain_append_parseFrame, ← h.2 c]
    simp only [List.append_assoc]
    rw [← List.append_assoc ((wire.drop node.read).take k), take_append_drop_read]

end Handled

/-- Writing more to the wire keeps a station tracking it. -/
theorem Tracks.append {st : MstpSimulator} {wire : List UInt8} {node : Node}
    (t : Tracks st wire node) (more : List UInt8) : Tracks st (wire ++ more) node := by
  obtain ⟨le, buffer, handled, h⟩ := t
  exact ⟨by simp only [List.length_append]; omega, buffer, handled, h.append le more⟩

/-- One pass of a station's loop keeps it tracking the wire. -/
theorem Tracks.pass {st : MstpSimulator} {wire : List UInt8} {node : Node}
    (t : Tracks st wire node) (k : Nat) :
    Tracks st wire ⟨node.loop.pass ((wire.drop node.read).take k),
      node.read + ((wire.drop node.read).take k).length⟩ := by
  obtain ⟨le, buffer, handled, h⟩ := t
  refine ⟨?_, ?_, _, h.pass k⟩
  · have := List.length_take_le' k (wire.drop node.read)
    simp only [List.length_drop] at this ⊢
    omega
  · have := length_parseFrame_le (node.loop.rxBuffer ++ (wire.drop node.read).take k)
    rw [RunState.pass_eq]
    simp only [List.length_append] at this ⊢
    omega

/-- A station tracking the wire parses only frames of the wire. -/
theorem Tracks.parsed_mem {st : MstpSimulator} {wire : List UInt8} {node : Node}
    (t : Tracks st wire node) (k : Nat) {f : Frame}
    (parsed : (parseFrame (node.loop.rxBuffer ++ (wire.drop node.read).take k)).1 = some f) :
    f ∈ (drain wire).1 := by
  obtain ⟨-, -, handled, h⟩ := t
  have after := (h.pass k).begins_drain
  rw [parsed] at after
  exact after.subset (List.mem_append_right _ (List.mem_singleton_self f))

/-! ### Every reachable state -/

namespace SerialBus

variable {n : Nat}

/-- The bus invariant: every station tracks the wire from its starting state, and every
payload on the wire fits the length field. -/
structure Inv (stations : Fin n → MstpSimulator) (bus : SerialBus n) : Prop where
  tracks : ∀ i, Tracks (stations i) bus.bytes (bus.nodes i)
  fits : ∀ s ∈ bus.log, (s.data.getD []).length ≤ 65535

theorem inv_start {stations : Fin n → MstpSimulator} {log : List Sent}
    (fits : ∀ s ∈ log, (s.data.getD []).length ≤ 65535) : Inv stations (start stations log) :=
  ⟨fun i => tracks_start (stations i) _, fits⟩

theorem Inv.step {stations : Fin n → MstpSimulator} {bus : SerialBus n} (inv : Inv stations bus)
    (i : Fin n) (k : Nat) : Inv stations (bus.step i k) := by
  constructor
  · intro j
    rw [bytes_step]
    by_cases same : j = i
    · subst same
      simp only [SerialBus.step, Function.update_same]
      exact ((inv.tracks j).pass k).append _
    · simp only [SerialBus.step, Function.update_noteq same]
      exact (inv.tracks j).append _
  · intro s mem
    rcases List.mem_append.mp mem with old | written
    · exact inv.fits s old
    · exact RunState.pass_written_fits _ _ s written

theorem Inv.run {stations : Fin n → MstpSimulator} {bus : SerialBus n} (inv : Inv stations bus)
    (schedule : List (Fin n × Nat)) : Inv stations (bus.run schedule) := by
  induction schedule generalizing bus with
  | nil => exact inv
  | cons e schedule ih => exact ih (inv.step e.1 e.2)

/-- Under every schedule, every station of the bus is `handle_frame` applied to the first
frames written to the wire, in the order they were written, whichever station wrote
them. -/
theorem bus_stations_follow_writes (stations : Fin n → MstpSimulator) (log : List Sent)
    (fits : ∀ s ∈ log, (s.data.getD []).length ≤ 65535) (schedule : List (Fin n × Nat))
    (i : Fin n) :
    ∃ handled, (((start stations log).run schedule).nodes i).loop.station =
        (stations i).handleFrames handled ∧
      handled <+: ((start stations log).run schedule).log.map fun s => s.args.decoded := by
  have inv : Inv stations ((start stations log).run schedule) := (inv_start fits).run schedule
  obtain ⟨-, -, handled, station, frames⟩ := inv.tracks i
  refine ⟨handled, station, ?_⟩
  rw [← drain_sent_bytes _ inv.fits]
  exact ⟨_, by simpa only [List.append_nil] using frames []⟩

/-- Two fresh stations, 3 and 5, with a Token from 5 to 3 on the wire: station 3 reads it
in two parts while station 5 reads the wire once. -/
theorem bus_stations_follow_writes_token :
    (∀ s ∈ [(⟨frameToken, 3, 5, none⟩ : Sent)], (s.data.getD []).length ≤ 65535) ∧
      ∃ handled, (((start (fun i : Fin 2 => MstpSimulator.init (3 + 2 * i.val) 127)
          [⟨frameToken, 3, 5, none⟩]).run [(0, 4), (1, 16), (0, 4)]).nodes 0).loop.station =
          ((fun i : Fin 2 => MstpSimulator.init (3 + 2 * i.val) 127) 0).handleFrames handled ∧
        handled <+: ((start (fun i : Fin 2 => MstpSimulator.init (3 + 2 * i.val) 127)
          [⟨frameToken, 3, 5, none⟩]).run [(0, 4), (1, 16), (0, 4)]).log.map fun s => s.args.decoded :=
  ⟨by decide, bus_stations_follow_writes _ _ (by decide) _ 0⟩

theorem run_cons (bus : SerialBus n) (e : Fin n × Nat) (schedule : List (Fin n × Nat)) :
    bus.run (e :: schedule) = (bus.step e.1 e.2).run schedule :=
  rfl

/-- Passes of station `i` that find nothing waiting run its loop on empty reads and
leave its read position alone. -/
theorem run_idle_node (bus : SerialBus n) (i : Fin n) (m : Nat) :
    (bus.run (List.replicate m (i, 0))).nodes i =
      ⟨(bus.nodes i).loop.run (List.replicate m []), (bus.nodes i).read⟩ := by
  induction m generalizing bus with
  | zero => rfl
  | succ m ih =>
    rw [List.replicate_succ, run_cons, ih, List.replicate_succ, RunState.run_cons]
    simp only [SerialBus.step, Function.update_same, List.take_zero, List.length_nil, Nat.add_zero]

/-- From every reachable state, a station that reads everything written so far and then
makes as many passes finding nothing waiting as there are bytes on the wire has handled
exactly the frames written up to its read, in order, whatever it writes meanwhile. -/
theorem bus_station_catches_up (stations : Fin n → MstpSimulator) (log : List Sent)
    (fits : ∀ s ∈ log, (s.data.getD []).length ≤ 65535) (schedule : List (Fin n × Nat))
    (i : Fin n) :
    let bus := (start stations log).run schedule
    ((bus.run ((i, bus.bytes.length) :: List.replicate bus.bytes.length (i, 0))).nodes i).loop.station =
      (stations i).handleFrames (bus.log.map fun s => s.args.decoded) := by
  intro bus
  have inv : Inv stations bus := (inv_start fits).run schedule
  have caught := (inv.tracks i).pass bus.bytes.length
  obtain ⟨le, buffer, handled, station, frames⟩ := caught
  have everything : (bus.nodes i).read + ((bus.bytes.drop (bus.nodes i).read).take bus.bytes.length).length =
      bus.bytes.length := by
    have := (inv.tracks i).read_le
    rw [List.take_of_length_le (by simp), List.length_drop]
    omega
  rw [everything, List.drop_length] at frames
  rw [everything] at buffer
  rw [run_cons, run_idle_node]
  simp only [SerialBus.step, Function.update_same]
  generalize (bus.nodes i).loop.pass ((bus.bytes.drop (bus.nodes i).read).take bus.bytes.length) = r
    at buffer station frames ⊢
  rw [show r = ⟨r.station, r.rxBuffer⟩ from rfl, RunState.run_idle _ _ _ buffer]
  dsimp only at station frames ⊢
  have whole := frames []
  simp only [List.append_nil] at whole
  rw [station, ← MstpSimulator.handleFrames_append, ← drain_sent_bytes _ inv.fits]
  exact congrArg _ whole

/-- Station 5 reads the Token from 5 to 3 at once; station 3 then catches up. -/
theorem bus_station_catches_up_token :
    (∀ s ∈ [(⟨frameToken, 3, 5, none⟩ : Sent)], (s.data.getD []).length ≤ 65535) ∧
      let bus := (start (fun i : Fin 2 => MstpSimulator.init (3 + 2 * i.val) 127)
        [⟨frameToken, 3, 5, none⟩]).run [(1, 16)]
      ((bus.run ((0, bus.bytes.length) :: List.replicate bus.bytes.length (0, 0))).nodes 0).loop.station =
        ((fun i : Fin 2 => MstpSimulator.init (3 + 2 * i.val) 127) 0).handleFrames
          (bus.log.map fun s => s.args.decoded) :=
  ⟨by decide, bus_station_catches_up _ _ (by decide) _ 0⟩

end SerialBus

end MstpLink.Simulator
