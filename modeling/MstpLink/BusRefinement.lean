import MstpLink.SerialBus
import MstpLink.Unheard

/-! The bus of bytes refines the bus of frames.

`SerialBus.lean` lets the stations read the wire in any interleaving, in pieces of any
size, each writing its answer as soon as it has parsed a frame; `Bus.lean` delivers each
frame to every station at once. For fresh stations with distinct addresses at or below
`max_master ≤ 254`, started with one Token, the two agree: under every schedule, the
`j`-th frame written to the wire is the frame the bus of frames has in flight after `j`
steps. Every interleaving thus writes a prefix of one sequence of frames, and what is
proved of the bus of frames, one token in flight or a station that never joins the ring,
holds of the wire whatever the timing.

## Main results

* `serial_bus_refines_bus`: under every schedule, the `j`-th frame written is the frame
  the bus of frames has in flight after `j` steps.
* `unheard_station_silent_on_wire`: the station the first Token does not name never
  transmits on the wire, whatever the schedule (`Unheard`, carried over).

## Proof strategy

A frame is answered by the station it is addressed to, when that station parses it, and
by no other (`Follows.answered`). A station has handled a prefix of the frames written
(`Handled.begins_drain`), so when it answers a frame it is in the state the bus of frames
gives it when that frame is delivered (`Bus.run_stations`), and the frame the bus of
frames puts in flight next is its answer (`Bus.step_of_answer`). The station addressed
by the last frame written has not handled it yet, and it handles each frame once, so its
answer extends the sequence at its end (`Follows.written`). -/

namespace MstpLink.Simulator

open MstpSimulator

/-! ### The bus of frames, one frame at a time -/

/-- While the bus has one frame in flight at each of its first steps, its stations are the
starting ones after those frames. -/
theorem Bus.run_stations (bus : Bus) (frames : List Frame)
    (carried : ∀ k (h : k < frames.length), (bus.run k).inFlight = [frames[k]]) (j : Nat)
    (le : j ≤ frames.length) : (bus.run j).stations = bus.stations.map (·.handleFrames (frames.take j)) := by
  induction j with
  | zero => simp [Bus.run, handleFrames]
  | succ j ih =>
    have lt : j < frames.length := by omega
    rw [Bus.run, Bus.step_of_cons (carried j lt), deliver_stations, ih (by omega), List.map_map,
      List.take_succ, List.getElem?_eq_getElem lt, Option.toList_some]
    simp only [Function.comp_def, handleFrames_append]
    rfl

theorem Sent.onWire_eq {s : Sent} {g : Frame} (wire : s.onWire = some g) : g = s.args.decoded := by
  unfold Sent.onWire at wire
  split at wire
  · exact (Option.some.inj wire).symm
  · cases wire

/-- When a station of the bus answers the one frame in flight, its answer is the next
frame in flight. -/
theorem Bus.step_of_answer {maxMaster : Nat} {bus : Bus} (inv : BusInv maxMaster bus) (cap : maxMaster ≤ 254)
    {f : Frame} (queued : bus.inFlight = [f]) {st : MstpSimulator} (mem : st ∈ bus.stations) {s : Sent}
    (one : (st.handleFrame f).ser.drop st.ser.length = [s]) : bus.step.inFlight = [s.args.decoded] := by
  have sendable := inv.sendable f (by rw [queued]; exact List.mem_singleton_self f)
  have alone := deliver_eq_answer inv.distinct (sendable.unicast cap) mem
    (by rw [one]; exact List.mem_singleton_self s)
  obtain ⟨stInv, below, common⟩ := inv.stations st mem
  rcases handleFrame_written st f with none | ⟨-, s', answer, one'⟩
  · rw [one] at none; cases none
  rw [one, List.singleton_inj] at one'
  subst one'
  obtain ⟨g, wire, -⟩ := onWire_sendable cap (answer.bounded (discoverFrom_inv stInv f)
    (by rw [discoverFrom_mac]; exact below) (by rw [discoverFrom_maxMaster]; exact common) sendable)
  rw [Bus.step_of_cons queued, alone, List.nil_append, List.filterMap_cons_some wire, List.filterMap_nil,
    Sent.onWire_eq wire]

/-! ### The bus of bytes follows the bus of frames -/

/-- Fresh stations `MstpSimulator(ser, mac, max_master)` at the addresses `macs`, numbered
as the bus of bytes numbers its stations. -/
def freshStations (macs : List Nat) (maxMaster : Nat) (i : Fin macs.length) : MstpSimulator :=
  init (macs.get i) maxMaster

/-- The bus of bytes follows the bus of frames started with `token`: it keeps the bus
invariant, every frame written is the frame the bus of frames has in flight at that step,
and every frame written but the last has been handled by the station it is addressed to. -/
structure Follows (macs : List Nat) (maxMaster : Nat) (token : Frame) (bus : SerialBus macs.length) : Prop where
  inv : SerialBus.Inv (freshStations macs maxMaster) bus
  carried : ∀ j (h : j < bus.log.length),
    ((Bus.start macs maxMaster token).run j).inFlight = [bus.log[j].args.decoded]
  answered : ∀ i handled, Handled (freshStations macs maxMaster i) bus.bytes (bus.nodes i) handled →
    ∀ j g, j + 1 < bus.log.length → ((Bus.start macs maxMaster token).run j).inFlight = [g] →
      g.dest.toNat = macs.get i → j < handled.length

section Follows

variable {macs : List Nat} {maxMaster : Nat} {token : Frame}

theorem follows_start (bare : token.data = none) :
    Follows macs maxMaster token
      (SerialBus.start (freshStations macs maxMaster) [⟨token.frameType, token.dest.toNat, token.src.toNat, none⟩]) := by
  refine ⟨SerialBus.inv_start fun s mem => ?_, fun j h => ?_, fun i handled _ j g later => ?_⟩
  · rw [List.mem_singleton.mp mem]; exact Nat.zero_le _
  · obtain ⟨t, d, s, data⟩ := token
    cases bare
    have zero : j = 0 := by simp only [SerialBus.start, List.length_singleton] at h; omega
    subst zero
    simp [Bus.run, Bus.start, SerialBus.start, Sent.args, FrameArgs.decoded]
  · simp [SerialBus.start] at later

/-- A station of the bus of bytes that has handled `handled` is the station of the bus of
frames after as many steps. -/
theorem Follows.station_mem {bus : SerialBus macs.length} (fol : Follows macs maxMaster token bus)
    {i : Fin macs.length} {handled : List Frame}
    (h : Handled (freshStations macs maxMaster i) bus.bytes (bus.nodes i) handled) :
    (bus.nodes i).loop.station ∈ ((Bus.start macs maxMaster token).run handled.length).stations := by
  have seen := h.begins_drain
  rw [SerialBus.bytes, drain_sent_bytes _ fol.inv.fits] at seen
  have stations := Bus.run_stations _ (bus.log.map fun s => s.args.decoded)
    (fun j lt => by rw [List.getElem_map]; exact fol.carried j (by simpa using lt)) handled.length
    seen.length_le
  rw [← List.prefix_iff_eq_take.mp seen] at stations
  rw [stations, h.1]
  exact List.mem_map_of_mem _ (List.mem_map_of_mem _ (List.get_mem macs i.1 i.2))

/-- What a station of a bus that follows the bus of frames handled before a pass, the
frames written before that pass: nothing new, or, when the station parsed the frame the
bus of frames has in flight at the last step and it was addressed there, one answer, which
the bus of frames has in flight next. -/
theorem Follows.written (frameInv : ∀ j, BusInv maxMaster ((Bus.start macs maxMaster token).run j))
    (cap : maxMaster ≤ 254) {bus : SerialBus macs.length} (fol : Follows macs maxMaster token bus)
    (i : Fin macs.length) (k : Nat) {handled : List Frame}
    (h : Handled (freshStations macs maxMaster i) bus.bytes (bus.nodes i) handled) :
    (bus.step i k).log = bus.log ∨
      ∃ f s, (parseFrame ((bus.nodes i).loop.rxBuffer ++ (bus.bytes.drop (bus.nodes i).read).take k)).1 = some f ∧
        ((Bus.start macs maxMaster token).run handled.length).inFlight = [f] ∧ f.dest.toNat = macs.get i ∧
        handled.length + 1 = bus.log.length ∧
        ((Bus.start macs maxMaster token).run (handled.length + 1)).inFlight = [s.args.decoded] ∧
        (bus.step i k).log = bus.log ++ [s] := by
  have log : (bus.step i k).log = bus.log ++ ((bus.nodes i).loop.station.handleFrames
      (parseFrame ((bus.nodes i).loop.rxBuffer ++ (bus.bytes.drop (bus.nodes i).read).take k)).1.toList).ser.drop
        (bus.nodes i).loop.station.ser.length := by
    simp only [SerialBus.step, RunState.pass_eq]
  cases parsed : (parseFrame ((bus.nodes i).loop.rxBuffer ++ (bus.bytes.drop (bus.nodes i).read).take k)).1 with
  | none => exact .inl (by rw [log, parsed]; simp [handleFrames])
  | some f =>
    have seen := (h.pass k).begins_drain
    rw [parsed, SerialBus.bytes, drain_sent_bytes _ fol.inv.fits] at seen
    have lt : handled.length < bus.log.length := by
      simpa using seen.length_le
    have inFlight : ((Bus.start macs maxMaster token).run handled.length).inFlight = [f] := by
      have atj := seen.getElem (n := handled.length) (by simp)
      simp only [Option.toList_some, List.getElem_concat_length, List.getElem_map] at atj
      rw [fol.carried _ lt, atj]
    have sendable := (frameInv handled.length).sendable f (by rw [inFlight]; exact List.mem_singleton_self f)
    rcases handleFrame_written (bus.nodes i).loop.station f with nothing | ⟨addressed, s, -, one⟩
    · exact .inl (by rw [log, parsed]; exact nothing.symm ▸ List.append_nil _)
    have mine : f.dest.toNat = macs.get i := by
      rw [addressed.resolve_right (sendable.unicast cap), h.1, handleFrames_mac]; rfl
    have last : handled.length + 1 = bus.log.length := by
      by_contra later
      exact absurd (fol.answered i handled h _ f (by omega) inFlight mine) (Nat.lt_irrefl _)
    refine .inr ⟨f, s, rfl, inFlight, mine, last, ?_, by rw [log, parsed]; exact congrArg _ one⟩
    exact Bus.step_of_answer (frameInv _) cap inFlight (fol.station_mem h) one

theorem carried_append {B : Nat → Bus} {log : List Sent} {s : Sent}
    (carried : ∀ j (h : j < log.length), (B j).inFlight = [log[j].args.decoded])
    (next : (B log.length).inFlight = [s.args.decoded]) :
    ∀ j (h : j < (log ++ [s]).length), (B j).inFlight = [(log ++ [s])[j].args.decoded] := by
  intro j h
  rw [List.length_append, List.length_singleton] at h
  rcases Nat.lt_succ_iff_lt_or_eq.mp h with old | rfl
  · rw [List.getElem_append_left old]; exact carried j old
  · rw [List.getElem_concat_length]
    exacts [next, rfl]

/-- One step of the bus of bytes, any station and any number of bytes, keeps it following
the bus of frames. -/
theorem Follows.step (frameInv : ∀ j, BusInv maxMaster ((Bus.start macs maxMaster token).run j))
    (cap : maxMaster ≤ 254) (distinct : macs.Nodup) {bus : SerialBus macs.length}
    (fol : Follows macs maxMaster token bus) (i : Fin macs.length) (k : Nat) :
    Follows macs maxMaster token (bus.step i k) := by
  obtain ⟨handled, h⟩ := (fol.inv.tracks i).handled
  have outcome := fol.written frameInv cap i k h
  refine ⟨fol.inv.step i k, ?_, fun i' handled' h' j g later inFlight mine => ?_⟩
  · rcases outcome with same | ⟨f, s, -, -, -, last, next, grown⟩
    · rw [same]; exact fol.carried
    · rw [grown]; exact carried_append fol.carried (last ▸ next)
  obtain ⟨old, h₀, grows, mover⟩ : ∃ old, Handled (freshStations macs maxMaster i') bus.bytes (bus.nodes i') old ∧
      old.length ≤ handled'.length ∧ (i' = i → handled' = handled ++
        (parseFrame ((bus.nodes i).loop.rxBuffer ++ (bus.bytes.drop (bus.nodes i).read).take k)).1.toList) := by
    rw [SerialBus.bytes_step] at h'
    by_cases same : i' = i
    · subst same
      simp only [SerialBus.step, Function.update_same] at h'
      have := h'.unique ((h.pass k).append ((fol.inv.tracks i').pass k).read_le _)
      exact ⟨handled, h, by rw [this, List.length_append]; omega, fun _ => this⟩
    · obtain ⟨old, h₀⟩ := (fol.inv.tracks i').handled
      simp only [SerialBus.step, Function.update_noteq same] at h'
      have := h'.unique (h₀.append (fol.inv.tracks i').read_le _)
      exact ⟨old, h₀, this ▸ le_refl _, fun moved => absurd moved same⟩
  by_cases earlier : j + 1 < bus.log.length
  · exact Nat.lt_of_lt_of_le (fol.answered i' old h₀ j g earlier inFlight mine) grows
  rcases outcome with same | ⟨f, s, parsed, inFlightF, mineF, last, -, grown⟩
  · rw [same] at later; exact absurd later earlier
  rw [grown, List.length_append, List.length_singleton] at later
  have atLast : j = handled.length := by omega
  subst atLast
  rw [inFlightF, List.singleton_inj] at inFlight
  have : i' = i := distinct.get_inj_iff.mp (by rw [← mine, ← mineF, inFlight])
  rw [mover this, parsed, Option.toList_some, List.length_append, List.length_singleton]
  exact Nat.lt_succ_self _

theorem Follows.run (frameInv : ∀ j, BusInv maxMaster ((Bus.start macs maxMaster token).run j))
    (cap : maxMaster ≤ 254) (distinct : macs.Nodup) {bus : SerialBus macs.length}
    (fol : Follows macs maxMaster token bus) (schedule : List (Fin macs.length × Nat)) :
    Follows macs maxMaster token (bus.run schedule) := by
  induction schedule generalizing bus with
  | nil => exact fol
  | cons e schedule ih => exact ih (fol.step frameInv cap distinct e.1 e.2)

end Follows

/-- Fresh stations with distinct addresses at or below `max_master ≤ 254`, one Token to one
of them written to the wire: under every schedule of passes and reads, the `j`-th frame
written is the frame the bus of frames, started with that Token, has in flight after `j`
steps. -/
theorem serial_bus_refines_bus {macs : List Nat} {maxMaster : Nat} {token : Frame}
    (distinct : macs.Nodup) (inRange : ∀ m ∈ macs, m ≤ maxMaster) (cap : maxMaster ≤ 254)
    (isToken : token.frameType = frameToken) (addressed : token.dest.toNat ∈ macs) (bare : token.data = none)
    (schedule : List (Fin macs.length × Nat)) (j : Nat)
    (h : j < ((SerialBus.start (freshStations macs maxMaster)
      [⟨token.frameType, token.dest.toNat, token.src.toNat, none⟩]).run schedule).log.length) :
    ((Bus.start macs maxMaster token).run j).inFlight =
      [((SerialBus.start (freshStations macs maxMaster)
        [⟨token.frameType, token.dest.toNat, token.src.toNat, none⟩]).run schedule).log[j].args.decoded] :=
  ((follows_start bare).run (busInv_run cap (busInv_start distinct inRange isToken addressed)) cap distinct
    schedule).carried j h

/-- Stations 3 and 5 and a Token from 5 to 3: station 3 reads it in two pieces around a
read of station 5, and its answer, the second frame written, is the frame the bus of
frames has in flight after one step. -/
theorem serial_bus_refines_bus_token :
    [3, 5].Nodup ∧ (∀ m ∈ [3, 5], m ≤ 127) ∧ 127 ≤ 254 ∧
      (⟨frameToken, 3, 5, none⟩ : Frame).frameType = frameToken ∧
      (⟨frameToken, 3, 5, none⟩ : Frame).dest.toNat ∈ [3, 5] ∧ (⟨frameToken, 3, 5, none⟩ : Frame).data = none ∧
      1 < ((SerialBus.start (freshStations [3, 5] 127) [⟨frameToken, (3 : UInt8).toNat, (5 : UInt8).toNat, none⟩]).run
        [((0 : Fin 2), 4), ((1 : Fin 2), 16), ((0 : Fin 2), 4)]).log.length ∧
      ((Bus.start [3, 5] 127 ⟨frameToken, 3, 5, none⟩).run 1).inFlight =
        [((SerialBus.start (freshStations [3, 5] 127) [⟨frameToken, (3 : UInt8).toNat, (5 : UInt8).toNat, none⟩]).run
          [((0 : Fin 2), 4), ((1 : Fin 2), 16), ((0 : Fin 2), 4)]).log[1].args.decoded] :=
  ⟨by decide, by decide, by decide, rfl, by decide, rfl, by decide,
    @serial_bus_refines_bus [3, 5] 127 ⟨frameToken, 3, 5, none⟩ (by decide) (by decide) (by decide) rfl (by decide) rfl
      [((0 : Fin 2), 4), ((1 : Fin 2), 16), ((0 : Fin 2), 4)] 1 (by decide)⟩

/-- On the bus of bytes, a station at an address the first Token names neither as source nor
as destination stays out of the ring under every schedule: no frame written names it, and
it writes nothing and receives no token. -/
theorem unheard_station_silent_on_wire {macs : List Nat} {maxMaster : Nat} {token : Frame} {x : Nat}
    (distinct : macs.Nodup) (inRange : ∀ m ∈ macs, m ≤ maxMaster) (cap : maxMaster ≤ 254)
    (isToken : token.frameType = frameToken) (addressed : token.dest.toNat ∈ macs)
    (sender : token.src.toNat ∈ macs) (twoParties : token.src.toNat ≠ token.dest.toNat)
    (notDest : token.dest.toNat ≠ x) (notSrc : token.src.toNat ≠ x) (bare : token.data = none)
    (schedule : List (Fin macs.length × Nat)) :
    (∀ s ∈ ((SerialBus.start (freshStations macs maxMaster)
        [⟨token.frameType, token.dest.toNat, token.src.toNat, none⟩]).run schedule).log,
        s.args.dest.toNat ≠ x ∧ s.args.src.toNat ≠ x) ∧
      ∀ i, macs.get i = x →
        (((SerialBus.start (freshStations macs maxMaster)
          [⟨token.frameType, token.dest.toNat, token.src.toNat, none⟩]).run schedule).nodes i).loop.station.ser = [] ∧
        (((SerialBus.start (freshStations macs maxMaster)
          [⟨token.frameType, token.dest.toNat, token.src.toNat, none⟩]).run schedule).nodes i).loop.station.tokensReceived = 0 := by
  have u := unheard_start distinct inRange isToken addressed sender twoParties notDest notSrc
  have fol := (follows_start bare).run (busInv_run cap (busInv_start distinct inRange isToken addressed)) cap
    distinct schedule
  refine ⟨fun s mem => ?_, fun i isX => ?_⟩
  · obtain ⟨j, lt, rfl⟩ := List.mem_iff_getElem.mp mem
    obtain ⟨g, queued, passing⟩ := (u.run cap j).inFlight
    rw [fol.carried j lt, List.singleton_inj] at queued
    subst queued
    exact ⟨passing.notTo, passing.notFrom⟩
  · obtain ⟨handled, h⟩ := (fol.inv.tracks i).handled
    refine (u.run cap handled.length).silent _ (fol.station_mem h) ?_
    rw [h.1, handleFrames_mac]
    exact isX

/-- Stations 1, 2 and 3 and a Token from 2 to 1: under a schedule where every station reads
in turn, nothing on the wire names 3, and station 3 stays silent. -/
theorem unheard_station_silent_on_wire_three :
    [1, 2, 3].Nodup ∧ (∀ m ∈ [1, 2, 3], m ≤ 127) ∧ 127 ≤ 254 ∧
      (⟨frameToken, 1, 2, none⟩ : Frame).frameType = frameToken ∧
      (⟨frameToken, 1, 2, none⟩ : Frame).dest.toNat ∈ [1, 2, 3] ∧
      (⟨frameToken, 1, 2, none⟩ : Frame).src.toNat ∈ [1, 2, 3] ∧
      (⟨frameToken, 1, 2, none⟩ : Frame).src.toNat ≠ (⟨frameToken, 1, 2, none⟩ : Frame).dest.toNat ∧
      (⟨frameToken, 1, 2, none⟩ : Frame).dest.toNat ≠ 3 ∧ (⟨frameToken, 1, 2, none⟩ : Frame).src.toNat ≠ 3 ∧
      (⟨frameToken, 1, 2, none⟩ : Frame).data = none ∧
      ((∀ s ∈ ((SerialBus.start (freshStations [1, 2, 3] 127)
          [⟨frameToken, (1 : UInt8).toNat, (2 : UInt8).toNat, none⟩]).run
            [((0 : Fin 3), 8), ((1 : Fin 3), 16), ((2 : Fin 3), 16), ((0 : Fin 3), 16)]).log,
          s.args.dest.toNat ≠ 3 ∧ s.args.src.toNat ≠ 3) ∧
        ∀ i, [1, 2, 3].get i = 3 →
          (((SerialBus.start (freshStations [1, 2, 3] 127)
            [⟨frameToken, (1 : UInt8).toNat, (2 : UInt8).toNat, none⟩]).run
              [((0 : Fin 3), 8), ((1 : Fin 3), 16), ((2 : Fin 3), 16), ((0 : Fin 3), 16)]).nodes i).loop.station.ser = [] ∧
          (((SerialBus.start (freshStations [1, 2, 3] 127)
            [⟨frameToken, (1 : UInt8).toNat, (2 : UInt8).toNat, none⟩]).run
              [((0 : Fin 3), 8), ((1 : Fin 3), 16), ((2 : Fin 3), 16), ((0 : Fin 3), 16)]).nodes i).loop.station.tokensReceived = 0) :=
  ⟨by decide, by decide, by decide, rfl, by decide, by decide, by decide, by decide, by decide, rfl,
    @unheard_station_silent_on_wire [1, 2, 3] 127 ⟨frameToken, 1, 2, none⟩ 3 (by decide) (by decide) (by decide) rfl
      (by decide) (by decide) (by decide) (by decide) (by decide) rfl
      [((0 : Fin 3), 8), ((1 : Fin 3), 16), ((2 : Fin 3), 16), ((0 : Fin 3), 16)]⟩

end MstpLink.Simulator
