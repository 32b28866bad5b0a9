import MstpLink.GatewayFull

/-! The I-Am reader of the gateway stress test `test_gateway_stress.py`.

`GatewayStressTest.parse_i_am` finds the devices that answer a Who-Is: it walks the
BVLC header, the destination and source specifiers and the hop count of the NPDU, then
reads the device object identifier of an I-Am APDU. Every exception inside it is caught
and returns `None`; an index out of range is `none` here.

The response parser of `test_gateway_full.py` (`GatewayFull.parseResponse`) walks the same
header with its own bounds checks. The stress test and the full test agree on every packet
the stress test reads as a device.

## Main results

* `parseIAm_agrees_with_parseResponse`: for every packet that `parse_i_am` reads as a
  device, and whose BVLC function is not a Result or a Read-FDT-Ack, `parse_response`
  returns the same source network and MAC, and the same device instance unless the NPDU
  is flagged as a network layer message.
* `requestNpdu_addressed`: the ReadProperty requests the stress test then sends to a device
  it found are addressed to the network and MAC of its I-Am, as `parse_npdu` of
  `test_gateway_routing.py` reads them, or are local when the I-Am came without both.

## Proof strategy

One bridge lemma per stage of the header walk (`readDest_of_skipDest`,
`readSource_of_readSource`, `readHop_of_inside`) says that the full test's stage stops at
the offset of the stress test's, as long as that offset is inside the packet; the
stress test's success puts every offset at least seven bytes before the end. -/

namespace MstpLink.GatewayStress

open Gateway (word)
open GatewayFull (NpduFields Response readNpdu readBody classify parseResponse bvlcResult bvlcReadFdtAck
  unpackWord32 readNpdu_stages parseResponse_npdu)

/-- The dictionary `parse_i_am` returns. -/
structure DeviceInfo where
  deviceId : Nat
  network : Option Nat
  mac : Option UInt8
  deriving DecidableEq, Repr

/-- The destination specifier, skipped: `none` where `npdu_data[offset + 2]` is out of
range. -/
def skipDest (d : List UInt8) (control : UInt8) (offset : Nat) : Option Nat :=
  if control &&& 0x20 ≠ 0 then
    if offset + 2 < d.length then
      let dlen := (d.getD (offset + 2) 0).toNat
      if dlen > 0 then some (offset + 3 + dlen) else some (offset + 3)
    else none
  else some offset

/-- What the source specifier gives `parse_i_am`: `source_network`, `source_mac` and the
offset after it. -/
structure Source where
  network : Option Nat
  mac : Option UInt8
  offset : Nat
  deriving DecidableEq, Repr

/-- The source specifier: `none` where `npdu_data[offset + 2]` or the first address byte is
out of range. -/
def readSource (d : List UInt8) (control : UInt8) (offset : Nat) : Option Source :=
  if control &&& 0x08 ≠ 0 then
    if offset + 2 < d.length then
      let network := word d offset
      let slen := (d.getD (offset + 2) 0).toNat
      if slen > 0 then
        if offset + 3 < d.length then some ⟨some network, some (d.getD (offset + 3) 0), offset + 3 + slen⟩
        else none
      else some ⟨some network, none, offset + 3⟩
    else none
  else some ⟨none, none, offset⟩

/-- The object identifier, `(apdu[3] << 24) | (apdu[4] << 16) | (apdu[5] << 8) | apdu[6]`. -/
def objectId (apdu : List UInt8) : Nat :=
  (apdu.getD 3 0).toNat <<< 24 ||| (apdu.getD 4 0).toNat <<< 16 ||| (apdu.getD 5 0).toNat <<< 8 |||
    (apdu.getD 6 0).toNat

/-- `GatewayStressTest.parse_i_am(data)`. -/
def parseIAm (data : List UInt8) : Option DeviceInfo :=
  if data.length < 4 ∨ data.getD 0 0 ≠ 0x81 then none
  else
    let npduData := data.drop (if data.getD 1 0 = 0x04 then 10 else 4)
    if npduData.length < 2 then none
    else
      let control := npduData.getD 1 0
      (skipDest npduData control 2).bind fun offset =>
        (readSource npduData control offset).bind fun source =>
          let apdu := npduData.drop (if control &&& 0x20 ≠ 0 then source.offset + 1 else source.offset)
          if apdu.length < 2 then none
          else if apdu.getD 0 0 ≠ 0x10 ∨ apdu.getD 1 0 ≠ 0x00 then none
          else if apdu.length < 7 then none
          else if objectId apdu >>> 22 = 8 then some ⟨objectId apdu &&& 0x3FFFFF, source.network, source.mac⟩
          else none

/-! ### Requests -/

/-- `build_npdu_routed(apdu, dest_network, dest_mac)`. -/
def buildNpduRouted (apdu : List UInt8) (destNetwork : Nat) (destMac : UInt8) : List UInt8 :=
  [0x01, 0x24, hiByte destNetwork, loByte destNetwork, 0x01, destMac, 0xFF] ++ apdu

/-- `build_npdu_broadcast(apdu)`. -/
def buildNpduBroadcast (apdu : List UInt8) : List UInt8 :=
  [0x01, 0x20, 0xFF, 0xFF, 0x00, 0xFF] ++ apdu

/-- `build_npdu_local(apdu, expecting_reply)`. -/
def buildNpduLocal (apdu : List UInt8) (expectingReply : Bool) : List UInt8 :=
  [0x01, if expectingReply then 0x04 else 0x00] ++ apdu

/-- The NPDU that `test_read_all_properties` and `test_object_list_enumeration` send to a
device found by `parse_i_am`: routed when `network and mac is not None`, local otherwise. -/
def requestNpdu (info : DeviceInfo) (apdu : List UInt8) : List UInt8 :=
  match info.network, info.mac with
  | some network, some mac => if network ≠ 0 then buildNpduRouted apdu network mac else buildNpduLocal apdu true
  | _, _ => buildNpduLocal apdu true

/-! ### What `parse_i_am` reads -/

/-- A case analysis of an `if` whose branches may fail. -/
theorem ite_eq_some {α : Type} {p : Prop} [Decidable p] {x y : Option α} {a : α} {P : Prop}
    (left : p → x = some a → P) (right : ¬p → y = some a → P) : (if p then x else y) = some a → P :=
  iteInduction (motive := fun z : Option α => z = some a → P) left right

theorem word_lt (d : List UInt8) (pos : Nat) : word d pos < 65536 := by
  unfold word
  have hi := byte_toNat_lt (d.getD pos 0)
  have lo := byte_toNat_lt (d.getD (pos + 1) 0)
  exact Nat.or_lt_two_pow (n := 16) (by rw [Nat.shiftLeft_eq]; omega) (by omega)

/-- The source stage moves forward, past a network read from two bytes. -/
theorem readSource_some {d : List UInt8} {c : UInt8} {pos : Nat} {s : Source} (read : readSource d c pos = some s) :
    pos ≤ s.offset ∧ ∀ network, s.network = some network → network < 65536 := by
  unfold readSource at read
  dsimp only at read
  refine ite_eq_some (fun _ => ite_eq_some (fun _ => ite_eq_some (fun _ => ite_eq_some (fun _ address => ?address)
    fun _ => Option.noConfusion) fun _ noAddress => ?noAddress) fun _ => Option.noConfusion)
    (fun _ noSource => ?noSource) read
  case address =>
    cases address
    exact ⟨Nat.le_add_right_of_le (Nat.le_add_right pos 3), fun _ network => by cases network; exact word_lt d pos⟩
  case noAddress =>
    cases noAddress
    exact ⟨Nat.le_add_right pos 3, fun _ network => by cases network; exact word_lt d pos⟩
  case noSource =>
    cases noSource
    exact ⟨le_refl pos, fun _ => Option.noConfusion⟩

/-- What `parse_i_am` has read when it returns a device. -/
theorem parseIAm_some {data : List UInt8} {info : DeviceInfo} (found : parseIAm data = some info) :
    ∃ s d off src p, (4 ≤ data.length ∧ data.getD 0 0 = 0x81) ∧ (if data.getD 1 0 = 0x04 then 10 else 4) = s ∧
      data.drop s = d ∧ 2 ≤ d.length ∧ skipDest d (d.getD 1 0) 2 = some off ∧
      readSource d (d.getD 1 0) off = some src ∧
      (if d.getD 1 0 &&& 0x20 ≠ 0 then src.offset + 1 else src.offset) = p ∧
      (d.drop p).getD 0 0 = 0x10 ∧ (d.drop p).getD 1 0 = 0x00 ∧ 7 ≤ (d.drop p).length ∧
      info = ⟨objectId (d.drop p) &&& 0x3FFFFF, src.network, src.mac⟩ := by
  unfold parseIAm at found
  by_cases bad : data.length < 4 ∨ data.getD 0 0 ≠ 0x81
  · rw [if_pos bad] at found
    cases found
  rw [if_neg bad] at found
  dsimp only at found
  generalize start : (if data.getD 1 0 = 0x04 then 10 else 4) = s at found
  generalize npdu : data.drop s = d at found
  by_cases short : d.length < 2
  · rw [if_pos short] at found
    cases found
  rw [if_neg short, Option.bind_eq_some] at found
  obtain ⟨off, skipped, found⟩ := found
  rw [Option.bind_eq_some] at found
  obtain ⟨src, read, found⟩ := found
  generalize hopAt : (if d.getD 1 0 &&& 0x20 ≠ 0 then src.offset + 1 else src.offset) = p at found
  refine ite_eq_some (fun _ => Option.noConfusion) (fun few => ite_eq_some (fun _ => Option.noConfusion)
    fun notIAm => ite_eq_some (fun _ => Option.noConfusion) fun tooShort => ite_eq_some (fun _ device => ?_)
      fun _ => Option.noConfusion) found
  cases device
  exact ⟨s, d, off, src, p, ⟨by omega, not_not.mp (not_or.mp bad).2⟩, rfl, npdu, by omega, skipped, read, hopAt,
    not_not.mp (not_or.mp notIAm).1, not_not.mp (not_or.mp notIAm).2, by omega, rfl⟩

/-- Every network `parse_i_am` reports is read from two bytes. -/
theorem parseIAm_network_lt {data : List UInt8} {info : DeviceInfo} (found : parseIAm data = some info)
    {network : Nat} (routed : info.network = some network) : network < 65536 := by
  obtain ⟨s, d, off, src, p, -, -, -, -, -, read, -, -, -, -, rfl⟩ := parseIAm_some found
  exact (readSource_some read).2 network routed

/-! ### The full test's stages, stopping where the stress test's do -/

theorem readDest_frame (d : List UInt8) (f : NpduFields) (pos : Nat) :
    ∃ dnet dadr, (GatewayFull.readDest d f pos).1 = { f with dnet := dnet, dadr := dadr } := by
  unfold GatewayFull.readDest
  dsimp only
  split_ifs
  · exact ⟨_, _, rfl⟩
  · exact ⟨_, f.dadr, rfl⟩
  · exact ⟨f.dnet, f.dadr, rfl⟩

theorem readDest_stop {d : List UInt8} {f : NpduFields} {pos off : Nat}
    (skipped : skipDest d f.control pos = some off) (inside : off ≤ d.length) :
    (GatewayFull.readDest d f pos).2 = off := by
  unfold skipDest at skipped
  unfold GatewayFull.readDest
  by_cases dest : f.control &&& 0x20 ≠ 0
  · rw [if_pos dest] at skipped
    by_cases fits : pos + 2 < d.length
    · rw [if_pos fits] at skipped
      rw [if_pos ⟨dest, by omega⟩]
      dsimp only at skipped ⊢
      split_ifs at skipped ⊢ with address <;> cases skipped
      · rfl
      · omega
      · omega
      · rfl
    · rw [if_neg fits] at skipped
      cases skipped
  · rw [if_neg dest] at skipped
    rw [if_neg fun h => dest h.1]
    exact Option.some.inj skipped

/-- The full test's destination stage stops where the stress test's does, inside the packet. -/
theorem readDest_of_skipDest {d : List UInt8} {f : NpduFields} {pos off : Nat}
    (skipped : skipDest d f.control pos = some off) (inside : off ≤ d.length) :
    ∃ dnet dadr, GatewayFull.readDest d f pos = ({ f with dnet := dnet, dadr := dadr }, off) := by
  obtain ⟨dnet, dadr, frame⟩ := readDest_frame d f pos
  exact ⟨dnet, dadr, Prod.ext frame (readDest_stop skipped inside)⟩

theorem head?_take_drop {d : List UInt8} {n k : Nat} (wide : 0 < k) (inside : n < d.length) :
    ((d.drop n).take k).head? = some (d.getD n 0) := by
  simp [List.head?_take, List.head?_drop, List.getD_eq_getElem?_getD, inside, Nat.pos_iff_ne_zero.mp wide]

theorem getD_take_drop {d : List UInt8} {n k i : Nat} (small : i < k) :
    ((d.drop n).take k).getD i 0 = d.getD (n + i) 0 := by
  simp [List.getD_eq_getElem?_getD, List.getElem?_take, small, List.getElem?_drop]

/-- The full test's source stage stops where the stress test's does, with the same network
and, as the first byte of the address, the same MAC. -/
theorem readSource_of_readSource {d : List UInt8} {f : NpduFields} {pos : Nat} {s : Source}
    (read : readSource d f.control pos = some s) (inside : s.offset ≤ d.length)
    (fresh : f.snet = none ∧ f.sadr = none) :
    ∃ sadr, GatewayFull.readSource d f pos = ({ f with snet := s.network, sadr := sadr }, s.offset) ∧
      s.mac = sadr.bind List.head? := by
  unfold readSource at read
  unfold GatewayFull.readSource
  by_cases src : f.control &&& 0x08 ≠ 0
  · rw [if_pos src] at read
    by_cases fits : pos + 2 < d.length
    · rw [if_pos fits] at read
      rw [if_pos ⟨src, by omega⟩]
      dsimp only at read ⊢
      by_cases addr : (d.getD (pos + 2) 0).toNat > 0
      · rw [if_pos addr] at read
        by_cases first : pos + 3 < d.length
        · rw [if_pos first] at read
          cases read
          rw [if_pos ⟨addr, inside⟩]
          exact ⟨_, rfl, (head?_take_drop addr first).symm⟩
        · rw [if_neg first] at read
          cases read
      · rw [if_neg addr] at read
        cases read
        rw [if_neg fun h => addr h.1]
        exact ⟨f.sadr, rfl, by rw [fresh.2]; rfl⟩
    · rw [if_neg fits] at read
      cases read
  · rw [if_neg src] at read
    cases read
    rw [if_neg fun h => src h.1]
    obtain ⟨c, m, dnet, dadr, snet, sadr, hop⟩ := f
    obtain ⟨rfl, rfl⟩ := fresh
    exact ⟨none, rfl, rfl⟩

/-- The hop count, read wherever the packet goes on after it. -/
theorem readHop_of_inside {d : List UInt8} {f : NpduFields} {pos p : Nat} (inside : pos < d.length)
    (stop : (if f.control &&& 0x20 ≠ 0 then pos + 1 else pos) = p) :
    ∃ hop, GatewayFull.readHop d f pos = ({ f with hopCount := hop }, p) := by
  unfold GatewayFull.readHop
  subst stop
  by_cases dest : f.control &&& 0x20 ≠ 0
  · rw [if_pos ⟨dest, inside⟩, if_pos dest]
    exact ⟨_, rfl⟩
  · rw [if_neg fun h => dest h.1, if_neg dest]
    exact ⟨f.hopCount, rfl⟩

theorem unpackWord32_take_drop (apdu : List UInt8) :
    unpackWord32 ((apdu.drop 3).take 4) = objectId apdu := by
  unfold unpackWord32 objectId
  rw [getD_take_drop (by decide), getD_take_drop (by decide), getD_take_drop (by decide),
    getD_take_drop (by decide)]

/-- An I-Am with its whole object identifier: the full test reads the device instance the
stress test reads. -/
theorem classify_i_am {r : Response} {apdu : List UInt8} (unconfirmed : apdu.getD 0 0 = 0x10)
    (iAm : apdu.getD 1 0 = 0x00) (long : 7 ≤ apdu.length) :
    classify r apdu =
      .ok { r with apdu := some apdu, type := some .unconfirmed, service := some 0x00,
                   deviceInstance := some (objectId apdu &&& 0x3FFFFF) } := by
  unfold classify
  dsimp only
  rw [unconfirmed, if_pos (by decide), if_pos (show apdu.length > 1 by omega), iAm,
    if_pos ⟨rfl, by omega⟩, if_neg (by simp only [List.length_take, List.length_drop]; omega),
    unpackWord32_take_drop]

theorem readBody_of_message {r : Response} {d : List UInt8} {pos : Nat} :
    ∃ r', readBody r true d pos = .ok r' ∧ r'.npdu = r.npdu ∧ r'.deviceInstance = r.deviceInstance := by
  unfold readBody
  rw [if_pos rfl]
  dsimp only
  split_ifs <;> exact ⟨_, rfl, rfl, rfl⟩

/-! ### The two tests agree on the devices -/

theorem parseIAm_agrees_with_parseResponse {data : List UInt8} {info : DeviceInfo}
    (found : parseIAm data = some info) (notResult : data.getD 1 0 ≠ bvlcResult)
    (notAck : data.getD 1 0 ≠ bvlcReadFdtAck) :
    ∃ r f, parseResponse data = .ok (some r) ∧ r.npdu = some f ∧ f.snet = info.network ∧
      info.mac = f.sadr.bind List.head? ∧ (f.networkMsg = false → r.deviceInstance = some info.deviceId) := by
  obtain ⟨s, d, off, src, p, header, start, npdu, long, skipped, read, hopAt, unconfirmed, iAm, apdu, rfl⟩ :=
    parseIAm_some found
  have inside : p + 7 ≤ d.length := by
    rw [List.length_drop] at apdu
    omega
  have behind : off ≤ src.offset := (readSource_some read).1
  have past : src.offset ≤ p := by
    rw [← hopAt]
    split <;> omega
  -- the full test's stages, stopping where the stress test's do
  generalize fresh : (⟨d.getD 1 0, d.getD 1 0 &&& 0x80 != 0, none, none, none, none, none⟩ : NpduFields) = f₀
  obtain ⟨dnet, dadr, dest⟩ := @readDest_of_skipDest d f₀ 2 off (by rw [← fresh]; exact skipped) (by omega)
  obtain ⟨sadr, source, mac⟩ := @readSource_of_readSource d { f₀ with dnet := dnet, dadr := dadr } off src
    (by rw [← fresh]; exact read) (by omega) (by rw [← fresh]; exact ⟨rfl, rfl⟩)
  obtain ⟨hop, hopStage⟩ := @readHop_of_inside d
    { f₀ with dnet := dnet, dadr := dadr, snet := src.network, sadr := sadr } src.offset p (by omega)
    (by rw [← fresh]; exact hopAt)
  have fits : s + 2 ≤ data.length := by
    have := congrArg List.length npdu
    rw [List.length_drop] at this
    omega
  subst fresh
  rw [parseResponse_npdu header notResult notAck (by rw [← start]; rfl) fits,
    npdu, readNpdu_stages dest source hopStage]
  dsimp only
  cases message : (d.getD 1 0 &&& 0x80 != 0)
  · rw [GatewayFull.readBody_data rfl, if_neg (List.ne_nil_of_length_pos (by omega)),
      classify_i_am unconfirmed iAm apdu]
    exact ⟨_, _, rfl, rfl, rfl, mac, fun _ => rfl⟩
  · obtain ⟨r, body, sameNpdu, -⟩ := @readBody_of_message
      { (⟨data.getD 1 0, word data 2, none, none, none, none, none, none, none, none, none, none, none⟩ :
          Response) with
        npdu := some ⟨d.getD 1 0, true, dnet, dadr, src.network, sadr, hop⟩ } d p
    rw [body]
    exact ⟨r, _, rfl, sameNpdu, rfl, mac, Bool.noConfusion⟩

theorem parseIAm_agrees_device_206 :
    parseIAm [0x81, 0x0B, 0x00, 0x18, 0x01, 0x08, 0xFD, 0xE9, 0x01, 0x06, 0x10, 0x00, 0xC4, 0x02, 0x00, 0x00,
        0xCE, 0x22, 0x01, 0xE0, 0x91, 0x00, 0x21, 0x08] = some ⟨206, some 65001, some 0x06⟩ ∧
      ∃ r f, parseResponse [0x81, 0x0B, 0x00, 0x18, 0x01, 0x08, 0xFD, 0xE9, 0x01, 0x06, 0x10, 0x00, 0xC4, 0x02,
          0x00, 0x00, 0xCE, 0x22, 0x01, 0xE0, 0x91, 0x00, 0x21, 0x08] = .ok (some r) ∧ r.npdu = some f ∧
        f.snet = some 65001 ∧ some 0x06 = f.sadr.bind List.head? ∧
        (f.networkMsg = false → r.deviceInstance = some 206) :=
  ⟨rfl, @parseIAm_agrees_with_parseResponse [0x81, 0x0B, 0x00, 0x18, 0x01, 0x08, 0xFD, 0xE9, 0x01, 0x06, 0x10,
    0x00, 0xC4, 0x02, 0x00, 0x00, 0xCE, 0x22, 0x01, 0xE0, 0x91, 0x00, 0x21, 0x08] ⟨206, some 65001, some 0x06⟩ rfl
    (by decide) (by decide)⟩

/-! ### Requests to the devices found -/

theorem buildNpdu_of_routed {apdu : List UInt8} {network : Nat} (mac : UInt8) (small : network < 65536) :
    Gateway.buildNpdu apdu (some network) [mac] true = some (buildNpduRouted apdu network mac) := by
  unfold Gateway.buildNpdu
  dsimp only
  rw [if_neg (by omega), if_neg (by simp), if_pos (List.cons_ne_nil mac []), Option.isSome_some, if_pos rfl,
    if_pos rfl, show (0x20 ||| 0x04 : UInt8) = 0x24 by decide]
  rfl

theorem buildNpdu_of_local (apdu : List UInt8) (expectingReply : Bool) :
    Gateway.buildNpdu apdu none [] expectingReply = some (buildNpduLocal apdu expectingReply) := by
  cases expectingReply <;> rfl

/-- The requests `test_read_all_properties` sends to a device that `parse_i_am` found, read
back by `parse_npdu` of `test_gateway_routing.py`: addressed to the network and MAC of the
I-Am when both are known and the network is not 0, and local otherwise. -/
theorem requestNpdu_addressed {data : List UInt8} {info : DeviceInfo} (found : parseIAm data = some info)
    (apdu : List UInt8) :
    Gateway.parseNpdu (requestNpdu info apdu) =
      some (if info.network.getD 0 ≠ 0 ∧ info.mac.isSome then
          Gateway.NpduInfo.expected apdu info.network info.mac.toList true
        else Gateway.NpduInfo.expected apdu none [] true) := by
  have toGateway := Gateway.parseNpdu_buildNpdu (buildNpdu_of_local apdu true)
  obtain ⟨deviceId, network, mac⟩ := info
  rcases network with _ | network
  · rw [if_neg fun h => h.1 rfl]
    exact toGateway
  rcases mac with _ | mac
  · rw [if_neg fun h => Bool.noConfusion h.2]
    exact toGateway
  by_cases zero : network = 0
  · subst zero
    rw [if_neg fun h => h.1 rfl]
    exact toGateway
  · rw [if_pos ⟨zero, rfl⟩]
    dsimp only [requestNpdu]
    rw [if_pos zero]
    exact Gateway.parseNpdu_buildNpdu (buildNpdu_of_routed mac (parseIAm_network_lt found rfl))

theorem requestNpdu_addressed_device_206 :
    parseIAm [0x81, 0x0B, 0x00, 0x18, 0x01, 0x08, 0xFD, 0xE9, 0x01, 0x06, 0x10, 0x00, 0xC4, 0x02, 0x00, 0x00,
        0xCE, 0x22, 0x01, 0xE0, 0x91, 0x00, 0x21, 0x08] = some ⟨206, some 65001, some 0x06⟩ ∧
      Gateway.parseNpdu (requestNpdu ⟨206, some 65001, some 0x06⟩ [0x00, 0x05, 0x01, 0x0C]) =
        some (Gateway.NpduInfo.expected [0x00, 0x05, 0x01, 0x0C] (some 65001) [0x06] true) :=
  ⟨rfl, @requestNpdu_addressed [0x81, 0x0B, 0x00, 0x18, 0x01, 0x08, 0xFD, 0xE9, 0x01, 0x06, 0x10, 0x00, 0xC4,
    0x02, 0x00, 0x00, 0xCE, 0x22, 0x01, 0xE0, 0x91, 0x00, 0x21, 0x08] ⟨206, some 65001, some 0x06⟩ rfl
    [0x00, 0x05, 0x01, 0x0C]⟩

end MstpLink.GatewayStress
