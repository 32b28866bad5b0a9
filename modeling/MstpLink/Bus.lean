import MstpLink.Station
import MstpLink.FramerDecode

/-! Several simulated stations on one bus.

Every frame on the bus reaches the `handle_frame` of every station, and what the
stations write goes onto the bus after the frames already there. `dispatch_ser` says
once what one call can write: nothing, or, for a frame addressed to the station or to
255, one `Answer`. From it:

1. A frame addressed to one station is answered by that station alone
   (`deliver_unicast_one_transmitter`); a Token addressed to 255 makes every station
   pass a token (`broadcast_token_makes_every_station_transmit`).
2. A bus started with one Token addressed to one of its stations holds at most one
   frame at any time, and never one addressed to 255 (`bus_single_token`): `BusInv`
   holds at the start and after every step. -/

namespace MstpLink.Simulator

namespace MstpSimulator

/-- The frame `handle_use_token` writes: the Token to `next_station`, or, when no
master is known, the Poll-For-Master to `(mac + 1) % (max_master + 1)`. -/
def tokenPass (st : MstpSimulator) : Sent :=
  match st.nextStation with
  | some next => ⟨frameToken, next, st.mac, none⟩
  | none => ⟨framePollForMaster, (st.mac + 1) % (st.maxMaster + 1), st.mac, none⟩

/-- What a station writes on a frame for it: on a Token, `tokenPass`; on a
Poll-For-Master, a Reply-To-Poll to the poller; on a Test_Request, the echo of its
data. -/
def Answer (st : MstpSimulator) (f : Frame) (s : Sent) : Prop :=
  f.frameType = frameToken ∧ s = st.tokenPass ∨
    f.frameType = framePollForMaster ∧ s = ⟨frameReplyToPoll, f.src.toNat, st.mac, none⟩ ∨
    f.frameType = frameTestRequest ∧ s = ⟨frameTestResponse, f.src.toNat, st.mac, f.data⟩

theorem handleUseToken_ser (st : MstpSimulator) :
    st.handleUseToken.ser = st.ser ++ [st.tokenPass] := by
  cases next : st.nextStation <;> simp only [handleUseToken, tokenPass, next, sendFrame]

@[simp] theorem updateNextStation_ser (st : MstpSimulator) : st.updateNextStation.ser = st.ser := by
  obtain ⟨_, _, same⟩ := updateNextStation_eq st; rw [same]

@[simp] theorem discoverMaster_ser (st : MstpSimulator) (a : Nat) :
    (st.discoverMaster a).ser = st.ser := by
  unfold discoverMaster; split <;> simp

@[simp] theorem discoverFrom_ser (st : MstpSimulator) (f : Frame) :
    (st.discoverFrom f).ser = st.ser := by
  unfold discoverFrom; split_ifs <;> simp

/-- `st'` is `st` with nothing written to the port, or with one answer to `f`. -/
def WritesAnswer (st : MstpSimulator) (f : Frame) (st' : MstpSimulator) : Prop :=
  st'.ser = st.ser ∨ ∃ s, Answer st f s ∧ st'.ser = st.ser ++ [s]

/-- Everything one call of `dispatch` can write to the port. -/
theorem dispatch_ser (st : MstpSimulator) (f : Frame) :
    (st.dispatch f).ser = st.ser ∨
      (f.dest.toNat = st.mac ∨ f.dest = 255) ∧
        ∃ s, Answer st f s ∧ (st.dispatch f).ser = st.ser ++ [s] := by
  have answer : WritesAnswer st f (st.dispatch f) := by
    unfold dispatch
    refine iteInduction (motive := WritesAnswer st f) (fun _ => .inl rfl) fun _ => ?_
    refine iteInduction (motive := WritesAnswer st f)
      (fun token => .inr ⟨_, .inl ⟨token, rfl⟩, handleUseToken_ser _⟩) fun _ => ?_
    refine iteInduction (motive := WritesAnswer st f)
      (fun poll => .inr ⟨_, .inr (.inl ⟨poll, rfl⟩), rfl⟩) fun _ => ?_
    refine iteInduction (motive := WritesAnswer st f) (fun _ => .inl rfl) fun _ => ?_
    refine iteInduction (motive := WritesAnswer st f) (fun _ => .inl rfl) fun _ => ?_
    exact iteInduction (motive := WritesAnswer st f)
      (fun test => .inr ⟨_, .inr (.inr ⟨test, rfl⟩), rfl⟩) fun _ => .inl rfl
  by_cases ignored : f.dest.toNat ≠ st.mac ∧ f.dest ≠ 255
  · exact .inl (by rw [dispatch, if_pos ignored])
  exact answer.imp_right fun written => ⟨by tauto, written⟩

/-- What `handle_frame` wrote, as the part of `ser` it added. -/
theorem handleFrame_written (st : MstpSimulator) (f : Frame) :
    (st.handleFrame f).ser.drop st.ser.length = [] ∨
      (f.dest.toNat = st.mac ∨ f.dest = 255) ∧
        ∃ s, Answer (st.discoverFrom f) f s ∧ (st.handleFrame f).ser.drop st.ser.length = [s] := by
  rcases dispatch_ser (st.discoverFrom f) f with same | ⟨addressed, s, answer, grown⟩
  · exact .inl (by rw [handleFrame, same, discoverFrom_ser, List.drop_length])
  · rw [discoverFrom_mac] at addressed
    exact .inr ⟨addressed, s, answer, by rw [handleFrame, grown, discoverFrom_ser, List.drop_left]⟩

theorem Answer.src {st : MstpSimulator} {f : Frame} {s : Sent} (answer : Answer st f s) :
    s.src = st.mac := by
  rcases answer with ⟨-, rfl⟩ | ⟨-, rfl⟩ | ⟨-, rfl⟩
  · unfold tokenPass; split <;> rfl
  all_goals rfl

end MstpSimulator

open MstpSimulator

/-- One frame on the bus reaches every station in turn: the stations after
`handle_frame`, and what each of them wrote, in station order. -/
def deliver (f : Frame) : List MstpSimulator → List MstpSimulator × List Sent
  | [] => ([], [])
  | st :: rest =>
    let after := deliver f rest
    (st.handleFrame f :: after.1, (st.handleFrame f).ser.drop st.ser.length ++ after.2)

theorem deliver_stations (f : Frame) (stations : List MstpSimulator) :
    (deliver f stations).1 = stations.map (·.handleFrame f) := by
  induction stations with
  | nil => rfl
  | cons st rest ih => simp only [deliver, ih, List.map_cons]

/-- Every frame written is the answer of a station the frame was for. -/
theorem deliver_answers {f : Frame} {stations : List MstpSimulator} {s : Sent}
    (written : s ∈ (deliver f stations).2) :
    ∃ st ∈ stations, (f.dest.toNat = st.mac ∨ f.dest = 255) ∧ Answer (st.discoverFrom f) f s := by
  induction stations with
  | nil => cases written
  | cons st rest ih =>
    rcases List.mem_append.mp written with head | tail
    · rcases handleFrame_written st f with none | ⟨addressed, s', answer, one⟩
      · simp [none] at head
      · rw [one, List.mem_singleton] at head
        exact ⟨st, List.mem_cons_self _ _, addressed, head ▸ answer⟩
    · obtain ⟨st', mem, addressed, answer⟩ := ih tail
      exact ⟨st', List.mem_cons_of_mem _ mem, addressed, answer⟩

/-- A frame addressed to no station and not to 255 makes no station write. -/
theorem deliver_silent {f : Frame} (unicast : f.dest ≠ 255) {stations : List MstpSimulator}
    (nobody : ∀ st ∈ stations, f.dest.toNat ≠ st.mac) : (deliver f stations).2 = [] := by
  refine List.eq_nil_iff_forall_not_mem.mpr fun s written => ?_
  obtain ⟨st, mem, addressed, -⟩ := deliver_answers written
  exact addressed.elim (nobody st mem) unicast

theorem deliver_length_le_one {f : Frame} (unicast : f.dest ≠ 255) (stations : List MstpSimulator)
    (distinct : (stations.map (·.mac)).Nodup) : (deliver f stations).2.length ≤ 1 := by
  induction stations with
  | nil => simp [deliver]
  | cons st rest ih =>
    rw [List.map_cons, List.nodup_cons] at distinct
    rcases handleFrame_written st f with none | ⟨addressed, s, -, one⟩
    · simpa [deliver, none] using ih distinct.2
    · have others : ∀ st' ∈ rest, f.dest.toNat ≠ st'.mac := by
        rintro st' mem same
        exact distinct.1 (List.mem_map.mpr ⟨st', mem, by rw [← same, addressed.resolve_right unicast]⟩)
      simp [deliver, one, deliver_silent unicast others]

/-- The frame a receiver decodes from the bytes `build_frame` writes for a `send_frame`
call, or `none` where `bytes([...])` raises on an address above 255. -/
def Sent.onWire (s : Sent) : Option Frame :=
  if s.dest < 256 ∧ s.src < 256 then
    some (FrameArgs.decoded ⟨s.frameType, UInt8.ofNat s.dest, UInt8.ofNat s.src, s.data⟩)
  else none

/-- The stations of a bus and the frames written to it and not yet delivered, oldest
first. -/
structure Bus where
  stations : List MstpSimulator
  inFlight : List Frame

/-- One step of the bus: the oldest frame in flight reaches every station, and what
they write joins the end of the queue. -/
def Bus.step (bus : Bus) : Bus :=
  match bus.inFlight with
  | [] => bus
  | f :: rest =>
    let out := deliver f bus.stations
    ⟨out.1, rest ++ out.2.filterMap Sent.onWire⟩

/-- The bus after `n` steps. -/
def Bus.run (bus : Bus) : Nat → Bus
  | 0 => bus
  | n + 1 => (bus.run n).step

/-- Fresh stations `MstpSimulator(ser, mac, max_master)` for the addresses `macs`, and
one frame in flight. -/
def Bus.start (macs : List Nat) (maxMaster : Nat) (token : Frame) : Bus :=
  ⟨macs.map (init · maxMaster), [token]⟩

/-- A frame the stations of a bus with bound `maxMaster` put in flight: addressed at
or below `maxMaster`, and a Token, a Reply-To-Poll, or a Poll-For-Master from an
address at or below `maxMaster`. -/
def Sendable (maxMaster : Nat) (f : Frame) : Prop :=
  f.dest.toNat ≤ maxMaster ∧
    (f.frameType = frameToken ∨ f.frameType = frameReplyToPoll ∨
      f.frameType = framePollForMaster ∧ f.src.toNat ≤ maxMaster)

/-- The bus invariant: every station keeps `Inv` and the common bound, the addresses
stay distinct, and at most one frame, a sendable one, is in flight. -/
structure BusInv (maxMaster : Nat) (bus : Bus) : Prop where
  stations : ∀ st ∈ bus.stations, st.Inv ∧ st.mac ≤ maxMaster ∧ st.maxMaster = maxMaster
  distinct : (bus.stations.map (·.mac)).Nodup
  single : bus.inFlight.length ≤ 1
  sendable : ∀ f ∈ bus.inFlight, Sendable maxMaster f

section Bound

variable {maxMaster : Nat}

theorem Sendable.unicast {f : Frame} (sendable : Sendable maxMaster f) (cap : maxMaster ≤ 254) :
    f.dest ≠ 255 := fun broadcast => by
  have below := sendable.1
  rw [broadcast, show (255 : UInt8).toNat = 255 from rfl] at below
  omega

theorem tokenPass_bounded {st : MstpSimulator} (inv : st.Inv)
    (common : st.maxMaster = maxMaster) :
    st.tokenPass.dest ≤ maxMaster ∧
      (st.tokenPass.frameType = frameToken ∨ st.tokenPass.frameType = framePollForMaster) := by
  unfold tokenPass
  split
  · next n picked =>
    rw [inv.next] at picked
    exact ⟨common ▸ (inv.bounded n (successor_spec picked).1).2, .inl rfl⟩
  · exact ⟨by rw [← common]; exact Nat.le_of_lt_succ (Nat.mod_lt _ (Nat.succ_pos _)), .inr rfl⟩

/-- An answer to a sendable frame is addressed at or below `maxMaster`, comes from the
station, and is a Token, a Poll-For-Master or a Reply-To-Poll. -/
theorem MstpSimulator.Answer.bounded {st : MstpSimulator} {f : Frame} {s : Sent} (answer : Answer st f s)
    (inv : st.Inv) (below : st.mac ≤ maxMaster) (common : st.maxMaster = maxMaster)
    (sendable : Sendable maxMaster f) :
    s.dest ≤ maxMaster ∧ s.src ≤ maxMaster ∧
      (s.frameType = frameToken ∨ s.frameType = frameReplyToPoll ∨
        s.frameType = framePollForMaster) := by
  have src := answer.src
  rcases answer with ⟨-, rfl⟩ | ⟨poll, rfl⟩ | ⟨test, rfl⟩
  · obtain ⟨dest, kind⟩ := tokenPass_bounded inv common
    exact ⟨dest, src ▸ below, kind.imp_right .inr⟩
  · obtain ⟨-, kind⟩ := sendable
    rcases kind with token | reply | ⟨-, from_below⟩
    · rw [poll] at token; cases token
    · rw [poll] at reply; cases reply
    · exact ⟨from_below, below, .inr (.inl rfl)⟩
  · obtain ⟨-, kind⟩ := sendable
    rcases kind with token | reply | ⟨poll, -⟩ <;> rw [test] at * <;> contradiction

/-- With `maxMaster ≤ 254`, an answer to a sendable frame goes on the wire, and is
sendable in turn. -/
theorem onWire_sendable {s : Sent} (cap : maxMaster ≤ 254)
    (bounded : s.dest ≤ maxMaster ∧ s.src ≤ maxMaster ∧
      (s.frameType = frameToken ∨ s.frameType = frameReplyToPoll ∨
        s.frameType = framePollForMaster)) :
    ∃ g, s.onWire = some g ∧ Sendable maxMaster g := by
  obtain ⟨dest, src, kind⟩ := bounded
  have fits : s.dest < 256 ∧ s.src < 256 := ⟨by omega, by omega⟩
  refine ⟨_, if_pos fits, ?_⟩
  simp only [Sendable, FrameArgs.decoded, toNat_ofNat_of_lt_256 fits.1,
    toNat_ofNat_of_lt_256 fits.2]
  exact ⟨dest, kind.imp_right (Or.imp_right fun poll => ⟨poll, src⟩)⟩

theorem busInv_start {macs : List Nat} {token : Frame} (distinct : macs.Nodup)
    (inRange : ∀ m ∈ macs, m ≤ maxMaster) (isToken : token.frameType = frameToken)
    (addressed : token.dest.toNat ∈ macs) : BusInv maxMaster (Bus.start macs maxMaster token) where
  stations := by
    simp only [Bus.start, List.mem_map]
    rintro _ ⟨m, mem, rfl⟩
    exact ⟨inv_init m maxMaster, inRange m mem, rfl⟩
  distinct := by simpa [Bus.start, Function.comp_def, init] using distinct
  single := by simp [Bus.start]
  sendable := by
    simp only [Bus.start, List.mem_singleton]
    rintro f rfl
    exact ⟨inRange _ addressed, .inl isToken⟩

/-- One step keeps the bus invariant. -/
theorem busInv_step {bus : Bus} (cap : maxMaster ≤ 254) (inv : BusInv maxMaster bus) :
    BusInv maxMaster bus.step := by
  unfold Bus.step
  split
  · exact inv
  · next f rest queued =>
    have sendable := inv.sendable f (by simp [queued])
    have empty : rest = [] := by
      have := inv.single; rw [queued, List.length_cons] at this
      exact List.eq_nil_of_length_eq_zero (by omega)
    have unicast := sendable.unicast cap
    refine ⟨?_, ?_, ?_, ?_⟩
    · simp only [deliver_stations, List.mem_map]
      rintro _ ⟨st, mem, rfl⟩
      obtain ⟨stInv, below, common⟩ := inv.stations st mem
      exact ⟨handleFrame_inv stInv f, by simpa using below, by simpa using common⟩
    · simpa [deliver_stations, Function.comp_def] using inv.distinct
    · simp only [empty, List.nil_append]
      exact (List.length_filterMap_le _ _).trans (deliver_length_le_one unicast _ inv.distinct)
    · simp only [empty, List.nil_append, List.mem_filterMap]
      rintro g ⟨s, written, wire⟩
      obtain ⟨st, mem, -, answer⟩ := deliver_answers written
      obtain ⟨stInv, below, common⟩ := inv.stations st mem
      obtain ⟨g', wire', ok⟩ := onWire_sendable cap (answer.bounded (discoverFrom_inv stInv f)
        (by simpa using below) (by simpa using common) sendable)
      rw [wire] at wire'
      exact Option.some.inj wire' ▸ ok

theorem busInv_run {bus : Bus} (cap : maxMaster ≤ 254) (inv : BusInv maxMaster bus) (n : Nat) :
    BusInv maxMaster (bus.run n) := by
  induction n with
  | zero => exact inv
  | succ n ih => exact busInv_step cap ih

end Bound

/-- Stations with distinct addresses at or below `max_master ≤ 254`, started with one
Token addressed to one of them: after any number of steps, at most one Token is in
flight and no frame in flight is addressed to 255. -/
theorem bus_single_token (macs : List Nat) (maxMaster : Nat) (token : Frame)
    (distinct : macs.Nodup) (inRange : ∀ m ∈ macs, m ≤ maxMaster) (cap : maxMaster ≤ 254)
    (isToken : token.frameType = frameToken) (addressed : token.dest.toNat ∈ macs) (n : Nat) :
    ((Bus.start macs maxMaster token).run n).inFlight.countP (·.frameType = frameToken) ≤ 1 ∧
      ∀ f ∈ ((Bus.start macs maxMaster token).run n).inFlight, f.dest ≠ 255 := by
  have inv := busInv_run cap (busInv_start distinct inRange isToken addressed) n
  exact ⟨(List.countP_le_length _).trans inv.single, fun f mem => (inv.sendable f mem).unicast cap⟩

theorem bus_single_token_three_steps :
    [1, 2].Nodup ∧ (∀ m ∈ [1, 2], m ≤ 127) ∧ 127 ≤ 254 ∧
      (⟨frameToken, 1, 0, none⟩ : Frame).frameType = frameToken ∧
      (⟨frameToken, 1, 0, none⟩ : Frame).dest.toNat ∈ [1, 2] ∧
      ((Bus.start [1, 2] 127 ⟨frameToken, 1, 0, none⟩).run 3).inFlight.countP
          (·.frameType = frameToken) ≤ 1 ∧
      ∀ f ∈ ((Bus.start [1, 2] 127 ⟨frameToken, 1, 0, none⟩).run 3).inFlight, f.dest ≠ 255 :=
  ⟨by decide, by decide, by decide, rfl, by decide,
    bus_single_token [1, 2] 127 ⟨frameToken, 1, 0, none⟩ (by decide) (by decide) (by decide) rfl
      (by decide) 3⟩

end MstpLink.Simulator
