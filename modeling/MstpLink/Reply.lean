import MstpLink.Bus

/-! What a simulated station writes to its port when a frame addressed to it arrives,
as a receiver's `parse_frame` reads it back.

## Main result

`handleFrame_replies`: on a frame addressed to the station, the frames written by
`handle_frame` decode to `replySpec`, the answers the spec lists: the token pass of
`handle_use_token` on a Token, one Reply-To-Poll-For-Master on a Poll-For-Master, the
echo of a Test_Request, and nothing on any other type. In every state reachable from
`MstpSimulator(...)` the written addresses fit in a byte (`build_frame` would raise
otherwise), so the bytes modelled are the bytes written, and the station is back in
`IDLE` after every call.

## Proof strategy

`handle_frame` first runs discovery, which writes nothing and keeps `mac`,
`max_master` and `state`; its dispatch on a frame for the station is split by frame
type. The bytes of the writes are decoded one frame at a time by `drain_buildFrame`. -/

namespace MstpLink.Simulator

/-- The arguments of the `build_frame(frame_type, dest, self.mac, data)` call of
`send_frame`. An address of 256 or more, where `bytes([...])` raises `ValueError` and the
run loop stops, wraps here to its low byte. -/
def Sent.args (s : Sent) : FrameArgs := ⟨s.frameType, UInt8.ofNat s.dest, UInt8.ofNat s.src, s.data⟩

/-- The bytes `send_frame` writes to `self.ser`, for addresses below 256. -/
def Sent.bytes (s : Sent) : List UInt8 := s.args.bytes

@[simp] theorem ofNat_toNat_byte (b : UInt8) : UInt8.ofNat b.toNat = b :=
  UInt8.toNat.inj (toNat_ofNat_of_lt_256 (byte_toNat_lt b))

/-- Writes decode one after the other. -/
theorem drain_sent_bytes (out : List Sent) (fits : ∀ s ∈ out, (s.data.getD []).length ≤ 65535) :
    (drain (out.map Sent.bytes).flatten).1 = out.map fun s => s.args.decoded := by
  induction out with
  | nil => exact congrArg Prod.fst (drain_of_length_lt (by decide))
  | cons s rest ih =>
    rw [List.map_cons, List.flatten_cons, Sent.bytes, drain_buildFrame s.args (fits s (by simp)),
      ih fun s' mem => fits s' (List.mem_cons_of_mem _ mem), List.map_cons]

namespace MstpSimulator

/-- The answers the spec lists for a frame addressed to a station, as `parse_frame`
reports them: on a Token, a Token to `next_station` as discovery leaves it, or, with no
master known, a Poll-For-Master to `(mac + 1) % (max_master + 1)`; on a Poll-For-Master,
one Reply-To-Poll-For-Master to the poller; on a Test_Request, a Test_Response to the
requester with its payload if non-empty; nothing on any other frame type. -/
def replySpec (st : MstpSimulator) (f : Frame) : List Frame :=
  if f.frameType = frameToken then
    match (st.discoverFrom f).nextStation with
    | some next => [⟨frameToken, UInt8.ofNat next, UInt8.ofNat st.mac, none⟩]
    | none =>
      [⟨framePollForMaster, UInt8.ofNat ((st.mac + 1) % (st.maxMaster + 1)), UInt8.ofNat st.mac,
        none⟩]
  else if f.frameType = framePollForMaster then [⟨frameReplyToPoll, f.src, UInt8.ofNat st.mac, none⟩]
  else if f.frameType = frameTestRequest then
    [⟨frameTestResponse, f.src, UInt8.ofNat st.mac, if f.data.getD [] = [] then none else f.data⟩]
  else []

/-! ### What one call writes -/

/-- On a frame addressed to the station, what `handle_frame` writes decodes to the
answers of `replySpec`. -/
theorem handleFrame_replies (st : MstpSimulator) (f : Frame) (addressed : f.dest.toNat = st.mac) :
    ((st.handleFrame f).ser.drop st.ser.length).map (fun s => s.args.decoded) = replySpec st f := by
  have forUs : ¬(f.dest.toNat ≠ (st.discoverFrom f).mac ∧ f.dest ≠ 255) := by
    simp [addressed]
  rw [handleFrame, dispatch, if_neg forUs, ← discoverFrom_ser st f, replySpec,
    ← discoverFrom_mac st f, ← discoverFrom_maxMaster st f]
  generalize st.discoverFrom f = st'
  by_cases token : f.frameType = frameToken
  · rw [if_pos token, if_pos token, handleUseToken_ser, List.drop_left, tokenPass]
    cases st'.nextStation <;> rfl
  rw [if_neg token, if_neg token]
  by_cases poll : f.frameType = framePollForMaster
  · simp [poll, sendFrame, Sent.args, FrameArgs.decoded]
  rw [if_neg poll, if_neg poll]
  by_cases test : f.frameType = frameTestRequest
  · have notExpecting : f.frameType ≠ frameBacnetDataExpectingReply := by rw [test]; decide
    have notData : f.frameType ≠ frameBacnetDataNotExpectingReply := by rw [test]; decide
    rw [if_neg notExpecting, if_neg notData, if_pos test, if_pos test]
    simp only [sendFrame, List.drop_left, List.map_cons, List.map_nil, Sent.args,
      FrameArgs.decoded, ofNat_toNat_byte]
    rcases f.data with _ | _ | ⟨x, xs⟩ <;> rfl
  rw [if_neg test]
  split_ifs <;> simp

/-! ### Reachable states -/

theorem Heard.lt {f : Frame} {a : Nat} (heard : Heard f a) : a < 256 := by
  rcases heard with rfl | ⟨-, rfl⟩ <;> exact byte_toNat_lt _

@[simp] theorem discoverMaster_state (st : MstpSimulator) (a : Nat) :
    (st.discoverMaster a).state = st.state := by
  unfold discoverMaster
  split
  · obtain ⟨_, _, same⟩ := updateNextStation_eq
      { st with knownMasters := st.knownMasters ++ [a], log := st.log ++ [Note.discoveredMaster a] }
    rw [same]
  · rfl

@[simp] theorem discoverFrom_state (st : MstpSimulator) (f : Frame) :
    (st.discoverFrom f).state = st.state := by
  unfold discoverFrom; split_ifs <;> simp

/-- `handle_frame` leaves an idle station idle: the only change of state, on a Token,
is undone by `handle_use_token` before the call returns. -/
theorem handleFrame_state {st : MstpSimulator} (idle : st.state = .IDLE) (f : Frame) :
    (st.handleFrame f).state = .IDLE := by
  have discovered : (st.discoverFrom f).state = .IDLE := by rw [discoverFrom_state, idle]
  unfold handleFrame dispatch
  repeat' first
    | exact discovered
    | rfl
    | refine iteInduction (motive := fun st' : MstpSimulator => st'.state = .IDLE)
        (fun _ => ?_) (fun _ => ?_)

theorem handleFrames_state (mac maxMaster : Nat) (frames : List Frame) :
    ((init mac maxMaster).handleFrames frames).state = .IDLE := by
  suffices ∀ st : MstpSimulator, st.state = .IDLE → (st.handleFrames frames).state = .IDLE from
    this _ rfl
  induction frames with
  | nil => exact fun _ idle => idle
  | cons f rest ih => exact fun st idle => ih _ (handleFrame_state idle f)

/-- Every master a station knows was heard in a frame, so its address fits in a byte. -/
theorem handleFrames_knownMasters_lt (mac maxMaster : Nat) (frames : List Frame) :
    ∀ a ∈ ((init mac maxMaster).handleFrames frames).knownMasters, a < 256 := by
  intro a known
  rcases (handleFrames_mem _ frames a).mp known with none | ⟨-, -, f, -, heard⟩
  · cases none
  · exact heard.lt

/-- A station below 255 whose known masters fit in a byte passes the token, or polls,
to an address that fits in a byte. -/
theorem tokenPass_dest_lt {st : MstpSimulator} (inv : st.Inv)
    (known : ∀ a ∈ st.knownMasters, a < 256) (below : st.mac < 255) : st.tokenPass.dest < 256 := by
  unfold tokenPass
  split
  · next n picked =>
    rw [inv.next] at picked
    exact known n (successor_spec picked).1
  · exact Nat.lt_of_le_of_lt (Nat.mod_le _ _) (by omega)

theorem tokenPass_data (st : MstpSimulator) : st.tokenPass.data = none := by
  unfold tokenPass; split <;> rfl

/-- An answer of a station below 255 whose known masters fit in a byte, to a frame with
at most 65535 payload bytes, has addresses and a payload that `build_frame` encodes. -/
theorem Answer.fits {st : MstpSimulator} {f : Frame} {s : Sent} (answer : Answer st f s)
    (inv : st.Inv) (known : ∀ a ∈ st.knownMasters, a < 256) (below : st.mac < 255)
    (fits : (f.data.getD []).length ≤ 65535) :
    s.dest < 256 ∧ s.src < 256 ∧ (s.data.getD []).length ≤ 65535 := by
  have src : s.src < 256 := by rw [answer.src]; omega
  rcases answer with ⟨-, rfl⟩ | ⟨-, rfl⟩ | ⟨-, rfl⟩
  · exact ⟨tokenPass_dest_lt inv known below, src, by rw [tokenPass_data]; decide⟩
  · exact ⟨byte_toNat_lt _, src, Nat.zero_le _⟩
  · exact ⟨byte_toNat_lt _, src, fits⟩

/-- A station reached from `MstpSimulator(ser, mac, max_master)` by any frames, with
`mac ≠ 255`, given a frame addressed to it with at most 65535 payload bytes: the
addresses it writes fit in a byte, so `build_frame` writes the bytes modelled; those
bytes, read by `parse_frame` from an empty buffer, are exactly the answers of
`replySpec`; and the station is idle after the call. -/
theorem handleFrame_reply_decodes (mac maxMaster : Nat) (frames : List Frame) (f : Frame)
    (notBroadcast : mac ≠ 255) (addressed : f.dest.toNat = mac)
    (fits : (f.data.getD []).length ≤ 65535) :
    let st := (init mac maxMaster).handleFrames frames
    let written := (st.handleFrame f).ser.drop st.ser.length
    (∀ s ∈ written, s.dest < 256 ∧ s.src < 256) ∧
      (drain (written.map Sent.bytes).flatten).1 = replySpec st f ∧
      (st.handleFrame f).state = .IDLE := by
  intro st written
  have sameMac : (st.discoverFrom f).mac = mac := by simp [st, init]
  have belowMac : mac < 255 := by have := byte_toNat_lt f.dest; omega
  have inv := discoverFrom_inv (handleFrames_inv (inv_init mac maxMaster) frames) f
  have known : ∀ a ∈ (st.discoverFrom f).knownMasters, a < 256 := fun a mem => by
    rcases (discoverFrom_mem st f a).mp mem with old | ⟨-, -, heard⟩
    · exact handleFrames_knownMasters_lt mac maxMaster frames a old
    · exact heard.lt
  have bounded : ∀ s ∈ written, s.dest < 256 ∧ s.src < 256 ∧ (s.data.getD []).length ≤ 65535 := by
    intro s mem
    rcases handleFrame_written st f with nothing | ⟨-, s', answer, one⟩
    · simp [written, nothing] at mem
    rw [show written = [s'] from one, List.mem_singleton] at mem
    exact mem ▸ answer.fits inv known (by omega) fits
  refine ⟨fun s mem => ⟨(bounded s mem).1, (bounded s mem).2.1⟩, ?_,
    handleFrame_state (handleFrames_state mac maxMaster frames) f⟩
  rw [drain_sent_bytes written fun s mem => (bounded s mem).2.2]
  exact handleFrame_replies st f (by simp [st, init, addressed])

/-- Station 3, fresh, gets the token from 5: it learns 5 and passes the token back. -/
theorem handleFrame_reply_decodes_token :
    3 ≠ 255 ∧ (⟨frameToken, 3, 5, none⟩ : Frame).dest.toNat = 3 ∧
      ((⟨frameToken, 3, 5, none⟩ : Frame).data.getD []).length ≤ 65535 ∧
      let st := (init 3 127).handleFrames []
      let written := (st.handleFrame ⟨frameToken, 3, 5, none⟩).ser.drop st.ser.length
      (∀ s ∈ written, s.dest < 256 ∧ s.src < 256) ∧
        (drain (written.map Sent.bytes).flatten).1 = replySpec st ⟨frameToken, 3, 5, none⟩ ∧
        (st.handleFrame ⟨frameToken, 3, 5, none⟩).state = .IDLE :=
  ⟨by decide, rfl, by decide,
    handleFrame_reply_decodes 3 127 [] ⟨frameToken, 3, 5, none⟩ (by decide) rfl (by decide)⟩

example : replySpec (init 3 127) ⟨frameToken, 3, 5, none⟩ = [⟨frameToken, 5, 3, none⟩] := by
  decide

end MstpSimulator

end MstpLink.Simulator
