import MstpLink.Bus

/-! A master that no frame names never joins the ring.

`handle_use_token` polls for a master only while `next_station` is unknown, and every
station learns masters only from the frames it hears. So once every station but one knows
some master, nothing on the bus can name that one: the token goes only to known masters,
answers go back to the sender, and no station polls. The station is then never polled, never
handed the token, and never transmits, however long the bus runs, although the failure
semantics of the design rely on other masters' polling eventually reaching it.

## Main results

* `unheard_station_never_transmits`: on a bus of fresh stations started with a Token between
  two of them, a station at any other address writes nothing and receives no token, after
  any number of steps.

## Proof strategy

`Unheard` is an invariant of the bus (`unheard_start`, `Unheard.step`, `Unheard.run`). Its
key field, `informed`, says that every other station will know a master once it has heard
the frame in flight, so the station that takes the token passes it to a known master
instead of polling (`Unheard.passing_step`). -/

namespace MstpLink.Simulator

namespace MstpSimulator

@[simp] theorem updateNextStation_tokensReceived (st : MstpSimulator) :
    st.updateNextStation.tokensReceived = st.tokensReceived := by
  obtain ⟨_, _, same⟩ := updateNextStation_eq st; rw [same]

@[simp] theorem discoverMaster_tokensReceived (st : MstpSimulator) (a : Nat) :
    (st.discoverMaster a).tokensReceived = st.tokensReceived := by
  unfold discoverMaster; split <;> simp

@[simp] theorem discoverFrom_tokensReceived (st : MstpSimulator) (f : Frame) :
    (st.discoverFrom f).tokensReceived = st.tokensReceived := by
  unfold discoverFrom; split_ifs <;> simp

/-- A frame for another station, and not for 255, changes nothing but what discovery
learns from it. -/
theorem handleFrame_of_other {st : MstpSimulator} {f : Frame} (other : f.dest.toNat ≠ st.mac)
    (unicast : f.dest ≠ 255) : st.handleFrame f = st.discoverFrom f := by
  unfold handleFrame dispatch
  rw [discoverFrom_mac, if_pos ⟨other, unicast⟩]

end MstpSimulator

open MstpSimulator

theorem Bus.step_of_cons {bus : Bus} {f : Frame} {rest : List Frame} (queued : bus.inFlight = f :: rest) :
    bus.step = ⟨(deliver f bus.stations).1, rest ++ (deliver f bus.stations).2.filterMap Sent.onWire⟩ := by
  unfold Bus.step
  rw [queued]

/-- The addresses of the frame a receiver decodes are those `send_frame` was called with. -/
theorem onWire_addresses {s : Sent} {g : Frame} (wire : s.onWire = some g) :
    g.frameType = s.frameType ∧ g.dest.toNat = s.dest ∧ g.src.toNat = s.src := by
  unfold Sent.onWire at wire
  split at wire
  · next fits =>
    cases wire
    exact ⟨rfl, toNat_ofNat_of_lt_256 fits.1, toNat_ofNat_of_lt_256 fits.2⟩
  · cases wire

/-- What `deliver` collects from a station is what the station wrote. -/
theorem mem_deliver {f : Frame} {s : Sent} {stations : List MstpSimulator} {st : MstpSimulator}
    (mem : st ∈ stations) (written : s ∈ (st.handleFrame f).ser.drop st.ser.length) :
    s ∈ (deliver f stations).2 := by
  induction stations with
  | nil => cases mem
  | cons st' rest ih =>
    rcases List.mem_cons.mp mem with rfl | later
    · exact List.mem_append_left _ written
    · exact List.mem_append_right _ (ih later)

/-- A frame not for 255, to stations with distinct addresses, is answered by the one station
that writes, alone. -/
theorem deliver_eq_answer {f : Frame} {stations : List MstpSimulator} {st : MstpSimulator} {s : Sent}
    (distinct : (stations.map (·.mac)).Nodup) (unicast : f.dest ≠ 255) (mem : st ∈ stations)
    (written : s ∈ (st.handleFrame f).ser.drop st.ser.length) : (deliver f stations).2 = [s] := by
  have passed := mem_deliver mem written
  have one := deliver_length_le_one unicast stations distinct
  generalize (deliver f stations).2 = out at passed one ⊢
  rcases out with _ | ⟨a, _ | ⟨b, rest⟩⟩
  · cases passed
  · rw [List.mem_singleton.mp passed]
  · simp at one

/-- A Token for one of stations with distinct addresses is answered by that station alone,
with the token passed on. -/
theorem deliver_token {f : Frame} {stations : List MstpSimulator} {st : MstpSimulator}
    (distinct : (stations.map (·.mac)).Nodup) (mem : st ∈ stations) (token : f.frameType = frameToken)
    (mine : f.dest.toNat = st.mac) (unicast : f.dest ≠ 255) :
    (deliver f stations).2 = [(st.discoverFrom f).tokenPass] := by
  have written : (st.handleFrame f).ser = st.ser ++ [(st.discoverFrom f).tokenPass] := by
    unfold handleFrame dispatch
    rw [if_neg fun other => other.1 (mine.trans (discoverFrom_mac st f).symm), if_pos token,
      handleUseToken_ser]
    show (st.discoverFrom f).ser ++ [(st.discoverFrom f).tokenPass] = _
    rw [discoverFrom_ser]
  exact deliver_eq_answer distinct unicast mem (by rw [written, List.drop_left]; exact List.mem_singleton_self _)

/-- A Token `g` among `stations` that keeps away from `x`: between two of the stations,
neither at `x`, and such that every station but `x` knows a master once it has heard `g`. -/
structure Passing (x : Nat) (stations : List MstpSimulator) (g : Frame) : Prop where
  token : g.frameType = frameToken
  toStation : ∃ st ∈ stations, st.mac = g.dest.toNat
  fromStation : ∃ st ∈ stations, st.mac = g.src.toNat
  notTo : g.dest.toNat ≠ x
  notFrom : g.src.toNat ≠ x
  informed : ∀ st ∈ stations, st.mac ≠ x → (st.discoverFrom g).knownMasters ≠ []

/-- The bus before the station at `x` is ever named: no station knows `x`, every master a
station knows is one of the stations, a single Token keeping away from `x` is in flight, and
the station at `x` has written nothing and received no token. -/
structure Unheard (maxMaster x : Nat) (bus : Bus) : Prop where
  inv : BusInv maxMaster bus
  unknown : ∀ st ∈ bus.stations, x ∉ st.knownMasters
  members : ∀ st ∈ bus.stations, ∀ a ∈ st.knownMasters, ∃ st' ∈ bus.stations, st'.mac = a
  inFlight : ∃ g, bus.inFlight = [g] ∧ Passing x bus.stations g
  silent : ∀ st ∈ bus.stations, st.mac = x → st.ser = [] ∧ st.tokensReceived = 0

section Unheard

variable {maxMaster x : Nat}

theorem unheard_start {macs : List Nat} {token : Frame} (distinct : macs.Nodup)
    (inRange : ∀ m ∈ macs, m ≤ maxMaster) (isToken : token.frameType = frameToken)
    (addressed : token.dest.toNat ∈ macs) (sender : token.src.toNat ∈ macs)
    (twoParties : token.src.toNat ≠ token.dest.toNat) (notDest : token.dest.toNat ≠ x)
    (notSrc : token.src.toNat ≠ x) : Unheard maxMaster x (Bus.start macs maxMaster token) where
  inv := busInv_start distinct inRange isToken addressed
  unknown := by
    simp only [Bus.start, List.mem_map]
    rintro _ ⟨m, -, rfl⟩
    exact List.not_mem_nil x
  members := by
    simp only [Bus.start, List.mem_map]
    rintro _ ⟨m, -, rfl⟩ a known
    cases known
  inFlight := by
    refine ⟨token, rfl, isToken, ⟨_, List.mem_map_of_mem _ addressed, rfl⟩,
      ⟨_, List.mem_map_of_mem _ sender, rfl⟩, notDest, notSrc, ?_⟩
    simp only [Bus.start, List.mem_map]
    rintro _ ⟨m, -, rfl⟩ -
    by_cases fromSelf : token.src.toNat = m
    · refine List.ne_nil_of_mem ((discoverFrom_mem _ _ token.dest.toNat).mpr
        (.inr ⟨fun same => twoParties (fromSelf.trans same.symm), inRange _ addressed, .inr ⟨isToken, rfl⟩⟩))
    · exact List.ne_nil_of_mem ((discoverFrom_mem _ _ token.src.toNat).mpr
        (.inr ⟨fromSelf, inRange _ sender, .inl rfl⟩))
  silent := by
    simp only [Bus.start, List.mem_map]
    rintro _ ⟨m, -, rfl⟩ -
    exact ⟨rfl, rfl⟩

/-- The station a Token is for passes it to a master it knows, and that master is one of
the stations: the new token in flight keeps away from `x` too. -/
theorem Unheard.passing_step {bus : Bus} (cap : maxMaster ≤ 254) (u : Unheard maxMaster x bus) {g : Frame}
    (queued : bus.inFlight = [g]) (passing : Passing x bus.stations g) :
    ∃ g', bus.step.inFlight = [g'] ∧ Passing x bus.step.stations g' := by
  have sendable := u.inv.sendable g (by rw [queued]; exact List.mem_singleton_self g)
  have stations : bus.step.stations = bus.stations.map (·.handleFrame g) := by
    rw [Bus.step_of_cons queued, deliver_stations]
  have kept : ∀ st ∈ bus.stations, ∃ st' ∈ bus.step.stations, st'.mac = st.mac :=
    fun st mem => ⟨_, stations ▸ List.mem_map_of_mem _ mem, handleFrame_mac st g⟩
  obtain ⟨st, mem, mine⟩ := passing.toStation
  obtain ⟨stInv, below, common⟩ := u.inv.stations st mem
  have inv := discoverFrom_inv stInv g
  rcases next : (st.discoverFrom g).nextStation with _ | n
  · rw [inv.next, successor_eq_none_iff] at next
    exact absurd next (passing.informed st mem (mine ▸ passing.notTo))
  have known : n ∈ (st.discoverFrom g).knownMasters := (successor_spec (inv.next ▸ next)).1
  have pass : (st.discoverFrom g).tokenPass = ⟨frameToken, n, st.mac, none⟩ := by
    simp only [tokenPass, next, discoverFrom_mac]
  obtain ⟨g', wire, -⟩ := onWire_sendable cap ((Answer.bounded (.inl ⟨passing.token, rfl⟩) inv
    (by rwa [discoverFrom_mac]) (by rwa [discoverFrom_maxMaster]) sendable))
  rw [pass] at wire
  obtain ⟨kind, dest, src⟩ := onWire_addresses wire
  refine ⟨g', ?_, kind, ?_, src ▸ kept st mem, ?_, src ▸ mine ▸ passing.notTo, ?_⟩
  · rw [Bus.step_of_cons queued, deliver_token u.inv.distinct mem passing.token mine.symm (sendable.unicast cap),
      pass, List.nil_append, List.filterMap_cons_some wire, List.filterMap_nil]
  · rw [dest]
    rcases (discoverFrom_mem st g n).mp known with old | ⟨-, -, heard | ⟨-, heard⟩⟩
    · obtain ⟨st', mem', same⟩ := u.members st mem n old
      exact same ▸ kept st' mem'
    · exact heard ▸ passing.fromStation.elim fun st' ⟨mem', same⟩ => same ▸ kept st' mem'
    · exact heard ▸ passing.toStation.elim fun st' ⟨mem', same⟩ => same ▸ kept st' mem'
  · rw [dest]
    intro same
    rcases (discoverFrom_mem st g x).mp (same ▸ known) with old | ⟨-, -, heard | ⟨-, heard⟩⟩
    · exact u.unknown st mem old
    · exact passing.notFrom heard
    · exact passing.notTo heard
  · rw [stations]
    simp only [List.mem_map]
    rintro _ ⟨st', mem', rfl⟩ other
    rw [handleFrame_mac] at other
    obtain ⟨a, heardOf⟩ := List.exists_mem_of_ne_nil _ (passing.informed st' mem' other)
    refine List.ne_nil_of_mem ((discoverFrom_mem _ g' a).mpr (.inl ?_))
    rwa [handleFrame, (dispatch_keeps _ g).knownMasters]

/-- One step keeps the bus unheard of `x`. -/
theorem Unheard.step {bus : Bus} (cap : maxMaster ≤ 254) (u : Unheard maxMaster x bus) :
    Unheard maxMaster x bus.step := by
  obtain ⟨g, queued, passing⟩ := u.inFlight
  have stations : bus.step.stations = bus.stations.map (·.handleFrame g) := by
    rw [Bus.step_of_cons queued, deliver_stations]
  have learned : ∀ st ∈ bus.stations, ∀ a ∈ (st.handleFrame g).knownMasters,
      a ∈ st.knownMasters ∨ g.src.toNat = a ∨ g.dest.toNat = a := by
    intro st _ a known
    rcases (handleFrame_mem st g a).mp known with old | ⟨-, -, heard | ⟨-, heard⟩⟩
    exacts [.inl old, .inr (.inl heard), .inr (.inr heard)]
  refine ⟨busInv_step cap u.inv, ?_, ?_, u.passing_step cap queued passing, ?_⟩
  · rw [stations]
    simp only [List.mem_map]
    rintro _ ⟨st, mem, rfl⟩ known
    rcases learned st mem x known with old | heard | heard
    exacts [u.unknown st mem old, passing.notFrom heard, passing.notTo heard]
  · have kept : ∀ st ∈ bus.stations, ∃ st' ∈ bus.step.stations, st'.mac = st.mac :=
      fun st mem => ⟨_, stations ▸ List.mem_map_of_mem _ mem, handleFrame_mac st g⟩
    intro _ handled a known
    rw [stations] at handled
    obtain ⟨st, mem, rfl⟩ := List.mem_map.mp handled
    rcases learned st mem a known with old | heard | heard
    · obtain ⟨st', mem', same⟩ := u.members st mem a old
      exact same ▸ kept st' mem'
    · exact heard ▸ passing.fromStation.elim fun st' ⟨mem', same⟩ => same ▸ kept st' mem'
    · exact heard ▸ passing.toStation.elim fun st' ⟨mem', same⟩ => same ▸ kept st' mem'
  · rw [stations]
    simp only [List.mem_map]
    rintro _ ⟨st, mem, rfl⟩ isX
    rw [handleFrame_mac] at isX
    have unicast := (u.inv.sendable g (by rw [queued]; exact List.mem_singleton_self g)).unicast cap
    rw [handleFrame_of_other (fun same => passing.notTo (same.trans isX)) unicast, discoverFrom_ser,
      discoverFrom_tokensReceived]
    exact u.silent st mem isX

theorem Unheard.run {bus : Bus} (cap : maxMaster ≤ 254) (u : Unheard maxMaster x bus) (n : Nat) :
    Unheard maxMaster x (bus.run n) := by
  induction n with
  | zero => exact u
  | succ n ih => exact ih.step cap

end Unheard

/-- Stations with distinct addresses at or below `max_master ≤ 254`, started with a Token
from one of them to another: after any number of steps a single Token is still in flight,
neither to nor from `x`, and the station at `x` has transmitted nothing and received no
token. -/
theorem unheard_station_never_transmits {macs : List Nat} {maxMaster : Nat} {token : Frame} {x : Nat}
    (distinct : macs.Nodup) (inRange : ∀ m ∈ macs, m ≤ maxMaster) (cap : maxMaster ≤ 254)
    (isToken : token.frameType = frameToken) (addressed : token.dest.toNat ∈ macs)
    (sender : token.src.toNat ∈ macs) (twoParties : token.src.toNat ≠ token.dest.toNat)
    (notDest : token.dest.toNat ≠ x) (notSrc : token.src.toNat ≠ x) (n : Nat) :
    (∃ g, ((Bus.start macs maxMaster token).run n).inFlight = [g] ∧ g.frameType = frameToken ∧
        g.dest.toNat ≠ x ∧ g.src.toNat ≠ x) ∧
      ∀ st ∈ ((Bus.start macs maxMaster token).run n).stations, st.mac = x →
        st.ser = [] ∧ st.tokensReceived = 0 := by
  have u := (unheard_start distinct inRange isToken addressed sender twoParties notDest notSrc).run cap n
  obtain ⟨g, queued, passing⟩ := u.inFlight
  exact ⟨⟨g, queued, passing.token, passing.notTo, passing.notFrom⟩, u.silent⟩

theorem unheard_station_never_transmits_three :
    [1, 2, 3].Nodup ∧ (∀ m ∈ [1, 2, 3], m ≤ 127) ∧ 127 ≤ 254 ∧
      (⟨frameToken, 1, 2, none⟩ : Frame).frameType = frameToken ∧
      (⟨frameToken, 1, 2, none⟩ : Frame).dest.toNat ∈ [1, 2, 3] ∧
      (⟨frameToken, 1, 2, none⟩ : Frame).src.toNat ∈ [1, 2, 3] ∧
      (⟨frameToken, 1, 2, none⟩ : Frame).src.toNat ≠ (⟨frameToken, 1, 2, none⟩ : Frame).dest.toNat ∧
      (⟨frameToken, 1, 2, none⟩ : Frame).dest.toNat ≠ 3 ∧ (⟨frameToken, 1, 2, none⟩ : Frame).src.toNat ≠ 3 ∧
      ((∃ g, ((Bus.start [1, 2, 3] 127 ⟨frameToken, 1, 2, none⟩).run 10).inFlight = [g] ∧
          g.frameType = frameToken ∧ g.dest.toNat ≠ 3 ∧ g.src.toNat ≠ 3) ∧
        ∀ st ∈ ((Bus.start [1, 2, 3] 127 ⟨frameToken, 1, 2, none⟩).run 10).stations, st.mac = 3 →
          st.ser = [] ∧ st.tokensReceived = 0) :=
  ⟨by decide, by decide, by decide, rfl, by decide, by decide, by decide, by decide, by decide,
    unheard_station_never_transmits (by decide) (by decide) (by decide) rfl (by decide) (by decide) (by decide)
      (by decide) (by decide) 10⟩

end MstpLink.Simulator
