import MstpLink.Framer
import Mathlib.Data.List.Sort

/-! The master station of `mstp_simulator.py`: `MstpSimulator.handle_frame` and the
methods it calls.

The station is a record passed from call to call. The set `known_masters` is the
list of its elements in the order they were added (it is only ever read through
`in` and `sorted`), `self.ser` becomes the list of frames written (`ser`, as the
arguments of `build_frame`), and the two log lines that report bus membership,
`*** DISCOVERED MASTER ***` and `Updated next_station`, become `log`: they are the
observable trace of `discover_master` and `_update_next_station`. The reply delays
of `time.sleep` are not modelled.

`successor` states the spec's choice of next station; `Inv` says that the known
masters are in range and that `next_station` is their successor. Every call of
`handle_frame` keeps `Inv`, and the known masters are exactly the addresses heard. -/

namespace MstpLink.Simulator

/-- `FRAME_TOKEN`. -/
def frameToken : UInt8 := 0x00
/-- `FRAME_POLL_FOR_MASTER`. -/
def framePollForMaster : UInt8 := 0x01
/-- `FRAME_REPLY_TO_POLL`. -/
def frameReplyToPoll : UInt8 := 0x02
/-- `FRAME_TEST_REQUEST`. -/
def frameTestRequest : UInt8 := 0x03
/-- `FRAME_TEST_RESPONSE`. -/
def frameTestResponse : UInt8 := 0x04
/-- `FRAME_BACNET_DATA_EXPECTING_REPLY`. -/
def frameBacnetDataExpectingReply : UInt8 := 0x05
/-- `FRAME_BACNET_DATA_NOT_EXPECTING_REPLY`. -/
def frameBacnetDataNotExpectingReply : UInt8 := 0x06

/-- The values of `MstpSimulator.state`. -/
inductive Mode
  | IDLE
  | USE_TOKEN
  deriving DecidableEq, Repr

/-- One `send_frame(frame_type, dest, data)`: the arguments of the `build_frame` call
whose bytes go to `self.ser`. -/
structure Sent where
  frameType : UInt8
  dest : Nat
  src : Nat
  data : Option (List UInt8)
  deriving DecidableEq, Repr

/-- The membership log lines of `discover_master` and `_update_next_station`. -/
inductive Note
  | discoveredMaster (mac : Nat)
  | updatedNextStation (station : Nat) (wrapped : Bool)
  deriving DecidableEq, Repr

/-- The fields of `MstpSimulator` that `handle_frame` reads and writes. -/
structure MstpSimulator where
  mac : Nat
  maxMaster : Nat
  state : Mode
  tokenCount : Nat
  frameCount : Nat
  knownMasters : List Nat
  nextStation : Option Nat
  tokensReceived : Nat
  pollsReceived : Nat
  dataFramesReceived : Nat
  framesSent : Nat
  ser : List Sent
  log : List Note

/-- The spec's next station (section 3): the least known master above `mac`, or else
the least known master, and `none` when no master is known. -/
def successor (known : List Nat) (mac : Nat) : Option Nat :=
  (known.filter (mac < ·)).min?.or known.min?

namespace MstpSimulator

/-- `MstpSimulator(ser, mac_address, max_master)` on a port nothing was written to. -/
def init (mac maxMaster : Nat) : MstpSimulator :=
  ⟨mac, maxMaster, .IDLE, 0, 0, [], none, 0, 0, 0, 0, [], []⟩

/-- `_update_next_station`: the first known master above `mac` in sorted order, or
else the lowest one. The sorted list is empty exactly when the set is. -/
def updateNextStation (st : MstpSimulator) : MstpSimulator :=
  match st.knownMasters.insertionSort (· ≤ ·) with
  | [] => { st with nextStation := none }
  | masters@(lowest :: _) =>
    match masters.find? (· > st.mac) with
    | some m => { st with nextStation := some m, log := st.log ++ [Note.updatedNextStation m false] }
    | none =>
      { st with nextStation := some lowest, log := st.log ++ [Note.updatedNextStation lowest true] }

/-- `discover_master(mac)`. -/
def discoverMaster (st : MstpSimulator) (mac : Nat) : MstpSimulator :=
  if mac ≠ st.mac ∧ mac ≤ st.maxMaster ∧ mac ∉ st.knownMasters then
    { st with knownMasters := st.knownMasters ++ [mac],
              log := st.log ++ [Note.discoveredMaster mac] }.updateNextStation
  else st

/-- `send_frame(frame_type, dest, data)`. -/
def sendFrame (st : MstpSimulator) (frameType : UInt8) (dest : Nat)
    (data : Option (List UInt8)) : MstpSimulator :=
  { st with ser := st.ser ++ [⟨frameType, dest, st.mac, data⟩], framesSent := st.framesSent + 1 }

/-- `handle_use_token`: pass the token to `next_station`, or poll `mac + 1` when no
master is known, and go back to `IDLE`. -/
def handleUseToken (st : MstpSimulator) : MstpSimulator :=
  let st := { st with tokenCount := st.tokenCount + 1, frameCount := 0 }
  let st := match st.nextStation with
    | some next => st.sendFrame frameToken next none
    | none => st.sendFrame framePollForMaster ((st.mac + 1) % (st.maxMaster + 1)) none
  { st with state := .IDLE }

/-- The discovery step of `handle_frame`, run on every frame whatever its
destination: its source, the destination of a Token, and the source of a
Reply-To-Poll-For-Master a second time. -/
def discoverFrom (st : MstpSimulator) (f : Frame) : MstpSimulator :=
  let st := st.discoverMaster f.src.toNat
  if f.frameType = frameToken then st.discoverMaster f.dest.toNat
  else if f.frameType = frameReplyToPoll then st.discoverMaster f.src.toNat
  else st

/-- The rest of `handle_frame`: a frame for another station is ignored, one for this
station or for 255 is acted on by its type. -/
def dispatch (st : MstpSimulator) (f : Frame) : MstpSimulator :=
  if f.dest.toNat ≠ st.mac ∧ f.dest ≠ 255 then st
  else if f.frameType = frameToken then
    { st with tokensReceived := st.tokensReceived + 1, state := .USE_TOKEN }.handleUseToken
  else if f.frameType = framePollForMaster then
    { st with pollsReceived := st.pollsReceived + 1 }.sendFrame frameReplyToPoll f.src.toNat none
  else if f.frameType = frameBacnetDataExpectingReply then
    { st with dataFramesReceived := st.dataFramesReceived + 1 }
  else if f.frameType = frameBacnetDataNotExpectingReply then
    { st with dataFramesReceived := st.dataFramesReceived + 1 }
  else if f.frameType = frameTestRequest then st.sendFrame frameTestResponse f.src.toNat f.data
  else st

/-- `handle_frame(frame_type, dest, src, data)`. -/
def handleFrame (st : MstpSimulator) (f : Frame) : MstpSimulator := (st.discoverFrom f).dispatch f

/-- `handle_frame` on each frame in turn. -/
def handleFrames (st : MstpSimulator) (frames : List Frame) : MstpSimulator :=
  frames.foldl handleFrame st

/-- The bus membership invariant of the spec (section 3). -/
structure Inv (st : MstpSimulator) : Prop where
  nodup : st.knownMasters.Nodup
  bounded : ∀ a ∈ st.knownMasters, a ≠ st.mac ∧ a ≤ st.maxMaster
  next : st.nextStation = successor st.knownMasters st.mac

/-- An address that a frame makes known: its source, and the destination of a Token. -/
def Heard (f : Frame) (a : Nat) : Prop :=
  f.src.toNat = a ∨ (f.frameType = frameToken ∧ f.dest.toNat = a)

end MstpSimulator

theorem min?_congr {a b : List Nat} (same : ∀ x, x ∈ a ↔ x ∈ b) : a.min? = b.min? := by
  cases hb : b.min? with
  | none =>
    rw [List.min?_eq_none_iff] at hb ⊢
    subst hb
    exact List.eq_nil_iff_forall_not_mem.mpr fun x hx => by simpa using (same x).mp hx
  | some m =>
    rw [List.min?_eq_some_iff'] at hb ⊢
    exact ⟨(same m).mpr hb.1, fun x hx => hb.2 x ((same x).mp hx)⟩

/-- In a sorted list, the first element that passes a test is the least one that does. -/
theorem find?_eq_min?_filter {l : List Nat} (sorted : l.Sorted (· ≤ ·)) (p : Nat → Bool) :
    l.find? p = (l.filter p).min? := by
  induction l with
  | nil => rfl
  | cons y ys ih =>
    rw [List.sorted_cons] at sorted
    cases hp : p y
    · simp [List.find?_cons, List.filter_cons, hp, ih sorted.2]
    · simp only [List.find?_cons, List.filter_cons, hp, ite_true]
      refine (List.min?_eq_some_iff'.mpr ⟨List.mem_cons_self _ _, ?_⟩).symm
      intro b hb
      rcases List.mem_cons.mp hb with rfl | hb
      · exact Nat.le_refl _
      · exact sorted.1 b (List.mem_filter.mp hb).1

theorem successor_congr {k₁ k₂ : List Nat} (same : ∀ x, x ∈ k₁ ↔ x ∈ k₂) (mac : Nat) :
    successor k₁ mac = successor k₂ mac := by
  have filtered : ∀ x, x ∈ k₁.filter (mac < ·) ↔ x ∈ k₂.filter (mac < ·) := by
    simp [List.mem_filter, same]
  rw [successor, successor, min?_congr filtered, min?_congr same]

theorem successor_eq_none_iff {known : List Nat} {mac : Nat} :
    successor known mac = none ↔ known = [] := by
  constructor
  · intro none
    exact (by simpa [successor] using none : _ ∧ known = []).2
  · rintro rfl
    rfl

/-- What `successor` picks, in the words of the spec. -/
theorem successor_spec {known : List Nat} {mac n : Nat} (picked : successor known mac = some n) :
    n ∈ known ∧ ((∃ m ∈ known, mac < m) → mac < n ∧ ∀ m ∈ known, mac < m → n ≤ m) ∧
      ((∀ m ∈ known, m ≤ mac) → ∀ m ∈ known, n ≤ m) := by
  unfold successor at picked
  cases above : (known.filter (mac < ·)).min? with
  | some m =>
    rw [above] at picked
    obtain rfl : m = n := Option.some.inj picked
    obtain ⟨mem, least⟩ := List.min?_eq_some_iff'.mp above
    simp only [List.mem_filter, decide_eq_true_eq] at mem least
    refine ⟨mem.1, fun _ => ⟨mem.2, fun m hm lt => least m ⟨hm, lt⟩⟩, fun below => ?_⟩
    exact absurd (below _ mem.1) (by omega)
  | none =>
    rw [above] at picked
    obtain ⟨mem, least⟩ := List.min?_eq_some_iff'.mp picked
    rw [List.min?_eq_none_iff, List.filter_eq_nil_iff] at above
    refine ⟨mem, fun ⟨m, hm, lt⟩ => absurd lt (by simpa using above m hm), fun _ => least⟩

namespace MstpSimulator

theorem updateNextStation_nextStation (st : MstpSimulator) :
    st.updateNextStation.nextStation = successor st.knownMasters st.mac := by
  have sorted := List.sorted_insertionSort (· ≤ ·) st.knownMasters
  have same : ∀ x, x ∈ st.knownMasters.insertionSort (· ≤ ·) ↔ x ∈ st.knownMasters :=
    fun x => List.mem_insertionSort (· ≤ ·)
  rw [← successor_congr same]
  unfold updateNextStation
  split
  · next empty => rw [empty]; rfl
  · next masters lowest rest sortedEq =>
    rw [sortedEq] at sorted ⊢
    rw [find?_eq_min?_filter sorted]
    split
    · next m found => simp [successor, found]
    · next missing =>
      have least : (lowest :: rest).min? = some lowest := by
        refine List.min?_eq_some_iff'.mpr ⟨List.mem_cons_self _ _, fun b hb => ?_⟩
        rcases List.mem_cons.mp hb with rfl | hb
        · exact Nat.le_refl _
        · exact (List.sorted_cons.mp sorted).1 b hb
      simp [successor, missing, least]

/-- `_update_next_station` sets `next_station` and the log, and nothing else. -/
theorem updateNextStation_eq (st : MstpSimulator) :
    ∃ next log, st.updateNextStation = { st with nextStation := next, log := log } := by
  unfold updateNextStation
  split
  · exact ⟨_, _, rfl⟩
  · split <;> exact ⟨_, _, rfl⟩

@[simp] theorem updateNextStation_knownMasters (st : MstpSimulator) :
    st.updateNextStation.knownMasters = st.knownMasters := by
  obtain ⟨_, _, same⟩ := updateNextStation_eq st; rw [same]

@[simp] theorem updateNextStation_mac (st : MstpSimulator) : st.updateNextStation.mac = st.mac := by
  obtain ⟨_, _, same⟩ := updateNextStation_eq st; rw [same]

@[simp] theorem updateNextStation_maxMaster (st : MstpSimulator) :
    st.updateNextStation.maxMaster = st.maxMaster := by
  obtain ⟨_, _, same⟩ := updateNextStation_eq st; rw [same]

@[simp] theorem discoverMaster_mac (st : MstpSimulator) (a : Nat) :
    (st.discoverMaster a).mac = st.mac := by
  unfold discoverMaster; split <;> simp

@[simp] theorem discoverMaster_maxMaster (st : MstpSimulator) (a : Nat) :
    (st.discoverMaster a).maxMaster = st.maxMaster := by
  unfold discoverMaster; split <;> simp

theorem discoverMaster_mem (st : MstpSimulator) (a x : Nat) :
    x ∈ (st.discoverMaster a).knownMasters ↔
      x ∈ st.knownMasters ∨ (x ≠ st.mac ∧ x ≤ st.maxMaster ∧ a = x) := by
  unfold discoverMaster
  split
  · next guard =>
    simp only [updateNextStation_knownMasters, List.mem_append, List.mem_singleton]
    exact or_congr_right
      ⟨by rintro rfl; exact ⟨guard.1, guard.2.1, rfl⟩, fun ⟨_, _, same⟩ => same.symm⟩
  · next guard =>
    simp only [not_and, not_not] at guard
    constructor
    · exact .inl
    · rintro (known | ⟨notMac, below, rfl⟩)
      · exact known
      · exact guard notMac below

/-- What the reply half of `handle_frame` never changes. -/
structure Keeps (st st' : MstpSimulator) : Prop where
  mac : st'.mac = st.mac
  maxMaster : st'.maxMaster = st.maxMaster
  knownMasters : st'.knownMasters = st.knownMasters
  nextStation : st'.nextStation = st.nextStation
  log : st'.log = st.log

theorem handleUseToken_keeps (st : MstpSimulator) : Keeps st st.handleUseToken := by
  cases next : st.nextStation <;> simp only [handleUseToken, next] <;>
    exact ⟨rfl, rfl, rfl, next.symm, rfl⟩

theorem dispatch_keeps (st : MstpSimulator) (f : Frame) : Keeps st (st.dispatch f) := by
  have token := handleUseToken_keeps
    { st with tokensReceived := st.tokensReceived + 1, state := .USE_TOKEN }
  unfold dispatch
  repeat' refine iteInduction (motive := Keeps st) (fun _ => ?_) (fun _ => ?_)
  all_goals first
    | exact ⟨rfl, rfl, rfl, rfl, rfl⟩
    | exact ⟨token.mac, token.maxMaster, token.knownMasters, token.nextStation, token.log⟩

theorem Keeps.inv {st st' : MstpSimulator} (keeps : Keeps st st') (inv : st.Inv) : st'.Inv where
  nodup := keeps.knownMasters ▸ inv.nodup
  bounded := by rw [keeps.knownMasters, keeps.mac, keeps.maxMaster]; exact inv.bounded
  next := by rw [keeps.knownMasters, keeps.mac, keeps.nextStation]; exact inv.next

theorem inv_init (mac maxMaster : Nat) : (init mac maxMaster).Inv :=
  ⟨List.nodup_nil, by simp [init], rfl⟩

theorem discoverMaster_inv {st : MstpSimulator} (inv : st.Inv) (a : Nat) :
    (st.discoverMaster a).Inv := by
  unfold discoverMaster
  split
  · next guard =>
    obtain ⟨notMac, below, fresh⟩ := guard
    refine ⟨?_, ?_, by simp [updateNextStation_nextStation]⟩
    · simp [List.nodup_append, inv.nodup, fresh]
    · simp only [updateNextStation_knownMasters, updateNextStation_mac,
        updateNextStation_maxMaster, List.mem_append, List.mem_singleton]
      rintro x (known | rfl)
      · exact inv.bounded x known
      · exact ⟨notMac, below⟩
  · exact inv

theorem discoverFrom_inv {st : MstpSimulator} (inv : st.Inv) (f : Frame) :
    (st.discoverFrom f).Inv := by
  have first := discoverMaster_inv inv f.src.toNat
  unfold discoverFrom
  split_ifs
  · exact discoverMaster_inv first _
  · exact discoverMaster_inv first _
  · exact first

theorem discoverFrom_mem (st : MstpSimulator) (f : Frame) (x : Nat) :
    x ∈ (st.discoverFrom f).knownMasters ↔
      x ∈ st.knownMasters ∨ (x ≠ st.mac ∧ x ≤ st.maxMaster ∧ Heard f x) := by
  unfold discoverFrom Heard
  split_ifs with token <;>
    simp only [discoverMaster_mem, discoverMaster_mac, discoverMaster_maxMaster, token, true_and,
      false_and, or_false, and_or_left, or_assoc, or_self]

theorem handleFrame_inv {st : MstpSimulator} (inv : st.Inv) (f : Frame) : (st.handleFrame f).Inv :=
  (dispatch_keeps _ f).inv (discoverFrom_inv inv f)

theorem handleFrame_mem (st : MstpSimulator) (f : Frame) (x : Nat) :
    x ∈ (st.handleFrame f).knownMasters ↔
      x ∈ st.knownMasters ∨ (x ≠ st.mac ∧ x ≤ st.maxMaster ∧ Heard f x) := by
  rw [handleFrame, (dispatch_keeps _ f).knownMasters, discoverFrom_mem]

@[simp] theorem discoverFrom_mac (st : MstpSimulator) (f : Frame) :
    (st.discoverFrom f).mac = st.mac := by
  unfold discoverFrom; split_ifs <;> simp

@[simp] theorem discoverFrom_maxMaster (st : MstpSimulator) (f : Frame) :
    (st.discoverFrom f).maxMaster = st.maxMaster := by
  unfold discoverFrom; split_ifs <;> simp

@[simp] theorem handleFrame_mac (st : MstpSimulator) (f : Frame) : (st.handleFrame f).mac = st.mac := by
  rw [handleFrame, (dispatch_keeps _ f).mac, discoverFrom_mac]

@[simp] theorem handleFrame_maxMaster (st : MstpSimulator) (f : Frame) :
    (st.handleFrame f).maxMaster = st.maxMaster := by
  rw [handleFrame, (dispatch_keeps _ f).maxMaster, discoverFrom_maxMaster]

theorem handleFrames_inv {st : MstpSimulator} (inv : st.Inv) (frames : List Frame) :
    (st.handleFrames frames).Inv := by
  induction frames generalizing st with
  | nil => exact inv
  | cons f rest ih => exact ih (handleFrame_inv inv f)

theorem handleFrames_mem (st : MstpSimulator) (frames : List Frame) (x : Nat) :
    x ∈ (st.handleFrames frames).knownMasters ↔
      x ∈ st.knownMasters ∨ (x ≠ st.mac ∧ x ≤ st.maxMaster ∧ ∃ f ∈ frames, Heard f x) := by
  induction frames generalizing st with
  | nil => simp [handleFrames]
  | cons f rest ih =>
    rw [handleFrames, List.foldl_cons, ← handleFrames, ih, handleFrame_mem, handleFrame_mac,
      handleFrame_maxMaster]
    simp only [List.mem_cons, exists_eq_or_imp, and_or_left, or_assoc]

@[simp] theorem handleFrames_mac (st : MstpSimulator) (frames : List Frame) :
    (st.handleFrames frames).mac = st.mac := by
  induction frames generalizing st with
  | nil => rfl
  | cons f rest ih => exact (ih _).trans (handleFrame_mac st f)

@[simp] theorem handleFrames_maxMaster (st : MstpSimulator) (frames : List Frame) :
    (st.handleFrames frames).maxMaster = st.maxMaster := by
  induction frames generalizing st with
  | nil => rfl
  | cons f rest ih => exact (ih _).trans (handleFrame_maxMaster st f)

/-- From a fresh station, after any frames: the known masters lie in `0..max_master`
without `mac`, and `next_station` is `None` exactly when no master is known, and
otherwise the least known master above `mac`, or the least one when none is above. -/
theorem handleFrames_nextStation_successor (mac maxMaster : Nat) (frames : List Frame) :
    let st := (init mac maxMaster).handleFrames frames
    (∀ a ∈ st.knownMasters, a ≠ mac ∧ a ≤ maxMaster) ∧
      (st.nextStation = none ↔ st.knownMasters = []) ∧
      ∀ n, st.nextStation = some n →
        n ∈ st.knownMasters ∧ n ≠ mac ∧ n ≤ maxMaster ∧
          ((∃ m ∈ st.knownMasters, mac < m) →
            mac < n ∧ ∀ m ∈ st.knownMasters, mac < m → n ≤ m) ∧
          ((∀ m ∈ st.knownMasters, m ≤ mac) → ∀ m ∈ st.knownMasters, n ≤ m) := by
  intro st
  have inv : st.Inv := handleFrames_inv (inv_init mac maxMaster) frames
  have bounded := inv.bounded
  have next := inv.next
  simp only [st, handleFrames_mac, handleFrames_maxMaster, init] at bounded next
  refine ⟨bounded, next ▸ successor_eq_none_iff, fun n picked => ?_⟩
  obtain ⟨mem, above, wrap⟩ := successor_spec (next ▸ picked)
  exact ⟨mem, (bounded n mem).1, (bounded n mem).2, above, wrap⟩

/- Stations 2 and 5 heard on the bus: station 3 passes the token to 5, and station 6
wraps around to 2. -/
example : ((init 3 127).handleFrames [⟨frameBacnetDataNotExpectingReply, 255, 2, none⟩,
    ⟨frameBacnetDataNotExpectingReply, 255, 5, none⟩]).nextStation = some 5 := by decide

example : ((init 6 127).handleFrames [⟨frameBacnetDataNotExpectingReply, 255, 2, none⟩,
    ⟨frameBacnetDataNotExpectingReply, 255, 5, none⟩]).nextStation = some 2 := by decide

theorem discoverMaster_of_old {st : MstpSimulator} {a : Nat}
    (old : a ∈ st.knownMasters ∨ a = st.mac ∨ st.maxMaster < a) : st.discoverMaster a = st := by
  refine if_neg fun ⟨notMac, below, fresh⟩ => ?_
  rcases old with known | same | above
  · exact fresh known
  · exact notMac same
  · omega

/-- A frame that names only known or excluded addresses discovers nothing. -/
theorem discoverFrom_of_old {st : MstpSimulator} {f : Frame}
    (old : ∀ a, Heard f a → a ∈ st.knownMasters ∨ a = st.mac ∨ st.maxMaster < a) :
    st.discoverFrom f = st := by
  have src := discoverMaster_of_old (old _ (.inl rfl))
  simp only [discoverFrom, src]
  split_ifs with token
  · exact discoverMaster_of_old (old _ (.inr ⟨token, rfl⟩))
  all_goals rfl

/-- The known masters of a fresh station are the addresses its frames made heard,
whatever the frames' destinations: so any reordering or repetition of the frames leaves
the set and `next_station` as they are, and a frame that names only known or excluded
addresses changes neither and writes no membership log line. -/
theorem handleFrames_knownMasters_heard (mac maxMaster : Nat) (F : List Frame) :
    (∀ a, a ∈ ((init mac maxMaster).handleFrames F).knownMasters ↔
        a ≠ mac ∧ a ≤ maxMaster ∧ ∃ f ∈ F, Heard f a) ∧
      (∀ F' : List Frame, (∀ f, f ∈ F' ↔ f ∈ F) →
        (∀ a, a ∈ ((init mac maxMaster).handleFrames F').knownMasters ↔
            a ∈ ((init mac maxMaster).handleFrames F).knownMasters) ∧
          ((init mac maxMaster).handleFrames F').nextStation =
            ((init mac maxMaster).handleFrames F).nextStation) ∧
      ∀ (st : MstpSimulator) (f : Frame),
        (∀ a, Heard f a → a ∈ st.knownMasters ∨ a = st.mac ∨ st.maxMaster < a) →
          (st.handleFrame f).knownMasters = st.knownMasters ∧
            (st.handleFrame f).nextStation = st.nextStation ∧ (st.handleFrame f).log = st.log := by
  have heard : ∀ F a, a ∈ ((init mac maxMaster).handleFrames F).knownMasters ↔
      a ≠ mac ∧ a ≤ maxMaster ∧ ∃ f ∈ F, Heard f a := fun F a => by
    simp [handleFrames_mem, init]
  refine ⟨heard F, fun F' same => ?_, fun st f old => ?_⟩
  · have members : ∀ a, a ∈ ((init mac maxMaster).handleFrames F').knownMasters ↔
        a ∈ ((init mac maxMaster).handleFrames F).knownMasters := fun a => by
      simp only [heard, same]
    refine ⟨members, ?_⟩
    rw [(handleFrames_inv (inv_init mac maxMaster) F').next,
      (handleFrames_inv (inv_init mac maxMaster) F).next, successor_congr members]
    simp
  · have keeps := dispatch_keeps st f
    rw [handleFrame, discoverFrom_of_old old]
    exact ⟨keeps.knownMasters, keeps.nextStation, keeps.log⟩

end MstpSimulator

end MstpLink.Simulator
