import MstpLink.Npdu

/-! The response parser of the gateway test suite `test_gateway_full.py`.

`parse_response` reads a UDP packet from the gateway: the BVLC header, then a
BVLC-Result, a Read-Foreign-Device-Table-Ack with its entries, or an NPDU carrying a
network layer message or an APDU, which it classifies by PDU type. The suite builds its
requests with its own `build_npdu`, which can also carry a network layer message, and
wraps them with `build_bvlc`, the same text as in `test_gateway_routing.py`.

A Python exception of `parse_response` is an `Except.error`; the only one its code can
raise is the `struct.error` of `struct.unpack('>I', apdu[3:7])` on fewer than four bytes.
A dictionary key that `parse_response` leaves out is `none`, as the suite reads every
optional key with `.get`.

## Main results

* `parseResponse_request`: every NPDU the suite builds, of any length, wrapped and read
  back by `parse_response`, gives the length word `build_bvlc` masks to 16 bits, the
  destination, the hop count and the network message or the APDU it was built with
  (`parseResponse_whoIsRouter` for `build_who_is_router`).
* `parseResponse_truncated_i_am`: `parse_response` raises on such a packet exactly when its
  APDU is an Unconfirmed I-Am of six bytes, and `parseResponse_error`: on any packet, it
  raises only when the last six bytes are such an APDU. `receive_until` catches only
  `socket.timeout`, so that packet ends the test run.
* `parseResponse_fdtAck`: a Read-Foreign-Device-Table-Ack gives every whole entry of ten
  bytes, at its offset, and nothing else (`readEvery_eq`, the closed form of the loop).

## Proof strategy

The NPDU is read in stages, as in `Npdu.lean`; on the bytes of `build_npdu` each stage
reads the field written at its position (`readNpdu_local`, `readNpdu_routed`), and the
header stages stop where the message or the APDU begins (`readNpdu_buildNpdu`). Each
branch of `parse_response` but one returns, so an exception is traced back through the
`if`s one at a time (`ite_eq_error`) to the classification of the APDU. -/

namespace MstpLink.GatewayFull

open Gateway (word buildBvlc bvlcOriginalUnicast bvlcOriginalBroadcast getD_append_cons_length
  drop_append_cons_length)

/-- `BVLC_RESULT`. -/
def bvlcResult : UInt8 := 0x00
/-- `BVLC_FORWARDED_NPDU`. -/
def bvlcForwardedNpdu : UInt8 := 0x04
/-- `BVLC_READ_FDT_ACK`. -/
def bvlcReadFdtAck : UInt8 := 0x07
/-- `NL_WHO_IS_ROUTER`. -/
def nlWhoIsRouter : UInt8 := 0x00
/-- `NL_I_AM_ROUTER`. -/
def nlIAmRouter : UInt8 := 0x01
/-- `SERVICE_I_AM`. -/
def serviceIAm : UInt8 := 0

/-! ### Requests -/

/-- `build_npdu(apdu, dnet, dadr, expecting_reply, network_msg)` of `test_gateway_full.py`,
`none` where Python raises; an `apdu` of `None` is `[]`, and so is a `dadr` of `None`. -/
def buildNpdu (apdu : List UInt8) (dnet : Option Nat) (dadr : List UInt8) (expectingReply : Bool)
    (networkMsg : Option UInt8) : Option (List UInt8) :=
  let control : UInt8 := (if dnet.isSome then 0x20 else 0x00) |||
    (if expectingReply then 0x04 else 0x00) ||| (if networkMsg.isSome then 0x80 else 0x00)
  let tail := networkMsg.elim apdu fun msg => [msg]
  match dnet with
  | none => some ([0x01, control] ++ tail)
  | some net =>
    if net ≥ 65536 then none
    else if dadr ≠ [] ∧ dadr.length ≥ 256 then none
    else
      some ([0x01, control] ++ [hiByte net, loByte net] ++
        (if dadr ≠ [] then [UInt8.ofNat dadr.length] ++ dadr else [0]) ++ [0xFF] ++ tail)

/-- `build_who_is_router(target_network)`. -/
def buildWhoIsRouter (target : Option Nat) : Option (List UInt8) :=
  (buildNpdu [] none [] false (some nlWhoIsRouter)).bind fun npdu =>
    match target with
    | none => some npdu
    | some net => if net ≥ 65536 then none else some (npdu ++ [hiByte net, loByte net])

/-! ### Responses -/

/-- The values of `result['type']`. -/
inductive ResponseType
  | bvlcResult
  | fdtAck
  | networkMsg
  | unconfirmed
  | complexAck
  | error
  | reject
  deriving DecidableEq, Repr

/-- One entry of `result['fdt_entries']`; the address is kept as the IP and the port
rather than the text `"a.b.c.d:port"`. -/
structure FdtEntry where
  ip : UInt8 × UInt8 × UInt8 × UInt8
  port : Nat
  ttl : Nat
  remaining : Nat
  deriving DecidableEq, Repr

/-- The dictionary `result['npdu']`. -/
structure NpduFields where
  control : UInt8
  networkMsg : Bool
  dnet : Option Nat
  dadr : Option (List UInt8)
  snet : Option Nat
  sadr : Option (List UInt8)
  hopCount : Option UInt8
  deriving DecidableEq, Repr

/-- The dictionary `parse_response` returns. -/
structure Response where
  bvlcFunc : UInt8
  bvlcLen : Nat
  npdu : Option NpduFields
  apdu : Option (List UInt8)
  type : Option ResponseType
  resultCode : Option Nat
  fdtEntries : Option (List FdtEntry)
  networkMsgType : Option UInt8
  networks : Option (List Nat)
  service : Option UInt8
  deviceInstance : Option Nat
  invokeId : Option UInt8
  reason : Option UInt8
  deriving DecidableEq, Repr

/-- The exception `parse_response` can raise: `struct.error` of `struct.unpack('>I', ...)`
on fewer than four bytes. -/
inductive ParseError
  | unpack
  deriving DecidableEq, Repr

/-- `while pos + width <= len(data)`: read the entry at `pos`, then `pos += width`. -/
def readEvery {α : Type} (width : Nat) (wide : 0 < width) (read : List UInt8 → Nat → α)
    (data : List UInt8) (pos : Nat) : List α :=
  if pos + width ≤ data.length then read data pos :: readEvery width wide read data (pos + width)
  else []
termination_by data.length - pos
decreasing_by omega

/-- One entry of the Read-Foreign-Device-Table-Ack at `pos`. -/
def fdtEntryAt (data : List UInt8) (pos : Nat) : FdtEntry :=
  ⟨(data.getD pos 0, data.getD (pos + 1) 0, data.getD (pos + 2) 0, data.getD (pos + 3) 0),
    word data (pos + 4), word data (pos + 6), word data (pos + 8)⟩

/-- The loop over the FDT entries, from byte 4. -/
def fdtEntries (data : List UInt8) : List FdtEntry := readEvery 10 (by decide) fdtEntryAt data 4

/-- The loop over the networks of an I-Am-Router-To-Network, from `pos`. -/
def routerNetworks (npduData : List UInt8) (pos : Nat) : List Nat :=
  readEvery 2 (by decide) word npduData pos

/-- The destination specifier, read when present and whole. -/
def readDest (d : List UInt8) (f : NpduFields) (pos : Nat) : NpduFields × Nat :=
  if f.control &&& 0x20 ≠ 0 ∧ pos + 3 ≤ d.length then
    let dlen := (d.getD (pos + 2) 0).toNat
    let f := { f with dnet := some (word d pos) }
    if dlen > 0 ∧ pos + 3 + dlen ≤ d.length then
      ({ f with dadr := some ((d.drop (pos + 3)).take dlen) }, pos + 3 + dlen)
    else (f, pos + 3)
  else (f, pos)

/-- The source specifier, read when present and whole. -/
def readSource (d : List UInt8) (f : NpduFields) (pos : Nat) : NpduFields × Nat :=
  if f.control &&& 0x08 ≠ 0 ∧ pos + 3 ≤ d.length then
    let slen := (d.getD (pos + 2) 0).toNat
    let f := { f with snet := some (word d pos) }
    if slen > 0 ∧ pos + 3 + slen ≤ d.length then
      ({ f with sadr := some ((d.drop (pos + 3)).take slen) }, pos + 3 + slen)
    else (f, pos + 3)
  else (f, pos)

/-- The hop count, after a destination. -/
def readHop (d : List UInt8) (f : NpduFields) (pos : Nat) : NpduFields × Nat :=
  if f.control &&& 0x20 ≠ 0 ∧ pos < d.length then ({ f with hopCount := some (d.getD pos 0) }, pos + 1)
  else (f, pos)

/-- `struct.unpack('>I', b)[0]` of four bytes. -/
def unpackWord32 (b : List UInt8) : Nat :=
  (b.getD 0 0).toNat <<< 24 ||| (b.getD 1 0).toNat <<< 16 ||| (b.getD 2 0).toNat <<< 8 |||
    (b.getD 3 0).toNat

/-- The classification of the APDU by `pdu_type`. -/
def classify (r : Response) (apdu : List UInt8) : Except ParseError Response :=
  let r := { r with apdu := some apdu }
  let pduType := (apdu.getD 0 0 >>> 4) &&& 0x0F
  let second := if apdu.length > 1 then some (apdu.getD 1 0) else none
  let third := if apdu.length > 2 then some (apdu.getD 2 0) else none
  if pduType = 1 then
    let r := { r with type := some .unconfirmed, service := second }
    if second = some serviceIAm ∧ apdu.length ≥ 6 then
      let objId := (apdu.drop 3).take 4
      if objId.length ≠ 4 then .error .unpack
      else .ok { r with deviceInstance := some (unpackWord32 objId &&& 0x3FFFFF) }
    else .ok r
  else if pduType = 3 then .ok { r with type := some .complexAck, invokeId := second, service := third }
  else if pduType = 5 then .ok { r with type := some .error, invokeId := second, service := third }
  else if pduType = 6 then .ok { r with type := some .reject, invokeId := second, reason := third }
  else .ok r

/-- The rest of the NPDU from `pos`, past the hop count: the network layer message,
with the networks of an I-Am-Router-To-Network, or else the APDU. -/
def readBody (r : Response) (networkMsg : Bool) (npduData : List UInt8) (pos : Nat) :
    Except ParseError Response :=
  if networkMsg then
    if pos < npduData.length then
      let msgType := npduData.getD pos 0
      let r := { r with type := some .networkMsg, networkMsgType := some msgType }
      if msgType = nlIAmRouter then .ok { r with networks := some (routerNetworks npduData (pos + 1)) }
      else .ok r
    else .ok r
  else if pos < npduData.length then classify r (npduData.drop pos)
  else .ok r

/-- The NPDU part of `parse_response`, from `npdu_data = data[npdu_start:]`. -/
def readNpdu (r : Response) (npduData : List UInt8) : Except ParseError Response :=
  let control := npduData.getD 1 0
  let f : NpduFields := ⟨control, control &&& 0x80 != 0, none, none, none, none, none⟩
  let (f, pos) := readDest npduData f 2
  let (f, pos) := readSource npduData f pos
  let (f, pos) := readHop npduData f pos
  readBody { r with npdu := some f } f.networkMsg npduData pos

/-- `parse_response(data)`: `none` for `None`. -/
def parseResponse (data : List UInt8) : Except ParseError (Option Response) :=
  if data.length < 4 ∨ data.getD 0 0 ≠ 0x81 then .ok none
  else
    let r : Response := ⟨data.getD 1 0, word data 2, none, none, none, none, none, none, none, none,
      none, none, none⟩
    if r.bvlcFunc = bvlcResult then
      .ok (some { r with type := some .bvlcResult,
                         resultCode := some (if data.length ≥ 6 then word data 4 else 0) })
    else if r.bvlcFunc = bvlcReadFdtAck then
      .ok (some { r with type := some .fdtAck, fdtEntries := some (fdtEntries data) })
    else
      let npduStart := if r.bvlcFunc = bvlcForwardedNpdu then 10 else 4
      if data.length < npduStart + 2 then .ok (some r)
      else (readNpdu r (data.drop npduStart)).map some

/-! ### The read loops -/

theorem readEvery_eq {α : Type} (width : Nat) (wide : 0 < width) (read : List UInt8 → Nat → α)
    (data : List UInt8) (pos : Nat) :
    readEvery width wide read data pos =
      (List.range ((data.length - pos) / width)).map fun k => read data (pos + width * k) := by
  induction pos using readEvery.induct width wide read data with
  | case1 pos fits ih =>
    have count : (data.length - pos) / width = (data.length - (pos + width)) / width + 1 := by
      rw [Nat.div_eq_sub_div wide (by omega), Nat.sub_sub]
    rw [readEvery, if_pos fits, ih, count, List.range_succ_eq_map, List.map_cons, List.map_map,
      Nat.mul_zero, Nat.add_zero]
    congr 1
    refine List.map_congr_left fun k _ => ?_
    simp only [Function.comp, Nat.mul_succ]
    congr 1
    omega
  | case2 pos short =>
    rw [readEvery, if_neg short, Nat.div_eq_of_lt (by omega), List.range_zero, List.map_nil]

/-! ### The bytes of a request -/

theorem control_bits {base : UInt8} (routing : base = 0x00 ∨ base = 0x20) (expectingReply networkMsg : Bool) :
    let c : UInt8 := base ||| (if expectingReply then 0x04 else 0x00) ||| (if networkMsg then 0x80 else 0x00)
    (c &&& 0x20 != 0) = (base == 0x20) ∧ c &&& 0x08 = 0 ∧ (c &&& 0x80 != 0) = networkMsg := by
  rcases routing with rfl | rfl <;> cases expectingReply <;> cases networkMsg <;> decide

theorem buildNpdu_local (apdu dadr : List UInt8) (expectingReply : Bool) (networkMsg : Option UInt8) :
    buildNpdu apdu none dadr expectingReply networkMsg =
      some (0x01 :: (0x00 ||| (if expectingReply then 0x04 else 0x00) |||
        (if networkMsg.isSome then 0x80 else 0x00)) :: networkMsg.elim apdu fun msg => [msg]) :=
  rfl

theorem buildNpdu_routed {apdu dadr npdu : List UInt8} {net : Nat} {expectingReply : Bool}
    {networkMsg : Option UInt8} (built : buildNpdu apdu (some net) dadr expectingReply networkMsg = some npdu) :
    net < 65536 ∧ dadr.length < 256 ∧
      npdu = 0x01 :: (0x20 ||| (if expectingReply then 0x04 else 0x00) |||
        (if networkMsg.isSome then 0x80 else 0x00)) :: hiByte net :: loByte net ::
          UInt8.ofNat dadr.length :: (dadr ++ 0xFF :: networkMsg.elim apdu fun msg => [msg]) := by
  dsimp only [buildNpdu] at built
  by_cases large : net ≥ 65536
  · rw [if_pos large] at built; cases built
  by_cases wide : dadr ≠ [] ∧ dadr.length ≥ 256
  · rw [if_neg large, if_pos wide] at built; cases built
  rw [if_neg large, if_neg wide, Gateway.dadr_field, Option.some.injEq] at built
  refine ⟨by omega, ?_, by simp [← built]⟩
  by_cases empty : dadr = []
  · simp [empty]
  · exact Nat.lt_of_not_le fun h => wide ⟨empty, h⟩

/-! ### `parse_response`, stage by stage -/

theorem readDest_local {d : List UInt8} {f : NpduFields} {pos : Nat} (dest : f.control &&& 0x20 = 0) :
    readDest d f pos = (f, pos) := by
  rw [readDest, if_neg fun h => h.1 dest]

theorem readDest_routed {d : List UInt8} {f : NpduFields} {pos : Nat} (dest : f.control &&& 0x20 ≠ 0)
    {dadr : List UInt8} (long : pos + 3 + dadr.length ≤ d.length)
    (dlen : (d.getD (pos + 2) 0).toNat = dadr.length)
    (address : (d.drop (pos + 3)).take dadr.length = dadr) :
    readDest d f pos =
      ({ f with dnet := some (word d pos), dadr := if dadr = [] then f.dadr else some dadr },
        pos + 3 + dadr.length) := by
  unfold readDest
  rw [if_pos ⟨dest, by omega⟩]
  dsimp only
  rw [dlen]
  rcases dadr with _ | ⟨x, rest⟩
  · rw [if_neg (by simp)]; rfl
  · rw [if_pos ⟨by simp, long⟩, address]; rfl

theorem readSource_of_no_source {d : List UInt8} {f : NpduFields} {pos : Nat}
    (source : f.control &&& 0x08 = 0) : readSource d f pos = (f, pos) := by
  rw [readSource, if_neg fun h => h.1 source]

theorem readHop_local {d : List UInt8} {f : NpduFields} {pos : Nat} (dest : f.control &&& 0x20 = 0) :
    readHop d f pos = (f, pos) := by
  rw [readHop, if_neg fun h => h.1 dest]

theorem readHop_routed {d : List UInt8} {f : NpduFields} {pos : Nat} (dest : f.control &&& 0x20 ≠ 0)
    (inside : pos < d.length) : readHop d f pos = ({ f with hopCount := some (d.getD pos 0) }, pos + 1) := by
  rw [readHop, if_pos ⟨dest, inside⟩]

theorem readNpdu_local {c : UInt8} (dest : c &&& 0x20 = 0) (source : c &&& 0x08 = 0) (r : Response)
    (tail : List UInt8) :
    readNpdu r (0x01 :: c :: tail) =
      readBody { r with npdu := some ⟨c, c &&& 0x80 != 0, none, none, none, none, none⟩ }
        (c &&& 0x80 != 0) (0x01 :: c :: tail) 2 := by
  unfold readNpdu
  simp only [List.getD_cons_succ, List.getD_cons_zero]
  rw [readDest_local ?_]
  dsimp only
  rw [readSource_of_no_source ?_]
  dsimp only
  rw [readHop_local ?_]
  all_goals assumption

theorem readNpdu_routed {c : UInt8} (dest : c &&& 0x20 ≠ 0) (source : c &&& 0x08 = 0) {net : Nat}
    (small : net < 65536) {dadr : List UInt8} (fits : dadr.length < 256) (r : Response)
    (tail : List UInt8) :
    readNpdu r (0x01 :: c :: hiByte net :: loByte net :: UInt8.ofNat dadr.length :: (dadr ++ 0xFF :: tail)) =
      readBody { r with npdu := some ⟨c, c &&& 0x80 != 0, some net, if dadr = [] then none else some dadr,
          none, none, some 0xFF⟩ }
        (c &&& 0x80 != 0) (0x01 :: c :: hiByte net :: loByte net :: UInt8.ofNat dadr.length ::
          (dadr ++ 0xFF :: tail)) (dadr.length + 6) := by
  have header : (0x01 :: c :: hiByte net :: loByte net :: UInt8.ofNat dadr.length :: dadr).length =
      2 + 3 + dadr.length := by simp; omega
  have hop := getD_append_cons_length
    (0x01 :: c :: hiByte net :: loByte net :: UInt8.ofNat dadr.length :: dadr) tail 0xFF
  have dlen : ((0x01 :: c :: hiByte net :: loByte net :: UInt8.ofNat dadr.length ::
      (dadr ++ 0xFF :: tail)).getD (2 + 2) 0).toNat = dadr.length := toNat_ofNat_of_lt_256 fits
  have network : word (0x01 :: c :: hiByte net :: loByte net :: UInt8.ofNat dadr.length ::
      (dadr ++ 0xFF :: tail)) 2 = net := hiByte_lor_loByte small
  rw [header] at hop
  simp only [List.cons_append] at hop
  unfold readNpdu
  simp only [List.getD_cons_succ, List.getD_cons_zero]
  rw [readDest_routed ?_ (by simp; omega) dlen (List.take_left' rfl)]
  dsimp only
  rw [readSource_of_no_source ?_]
  dsimp only
  rw [readHop_routed ?_ (by simp; omega), hop, network,
    show 2 + 3 + dadr.length + 1 = dadr.length + 6 by omega]
  all_goals assumption

theorem readBody_data {r : Response} {d : List UInt8} {pos : Nat} {tail : List UInt8}
    (rest : d.drop pos = tail) : readBody r false d pos = if tail = [] then .ok r else classify r tail := by
  rw [readBody, if_neg Bool.false_ne_true, ← rest]
  by_cases inside : pos < d.length
  · rw [if_pos inside, if_neg (by simp; omega)]
  · rw [if_neg inside, if_pos (List.drop_eq_nil_of_le (by omega))]

theorem readBody_message {r : Response} {d : List UInt8} {pos : Nat} {msg : UInt8} {more : List UInt8}
    (rest : d.drop pos = msg :: more) :
    readBody r true d pos =
      .ok { r with type := some .networkMsg, networkMsgType := some msg,
                   networks := if msg = nlIAmRouter then some (routerNetworks d (pos + 1)) else r.networks } := by
  have inside : pos < d.length := by
    have := congrArg List.length rest
    simp only [List.length_drop, List.length_cons] at this
    omega
  have first : d.getD pos 0 = msg := by
    have := getD_append_cons_length (d.take pos) more msg
    rwa [← rest, List.take_append_drop, List.length_take, min_eq_left inside.le] at this
  rw [readBody, if_pos rfl, if_pos inside]
  dsimp only
  rw [first]
  split_ifs <;> rfl

/-- The tail after the header: the network layer message, or the APDU. -/
theorem readBody_tail {r : Response} {d : List UInt8} {pos : Nat} (apdu : List UInt8)
    (networkMsg : Option UInt8) (rest : d.drop pos = networkMsg.elim apdu fun msg => [msg]) :
    readBody r networkMsg.isSome d pos =
      networkMsg.elim (if apdu = [] then .ok r else classify r apdu) fun msg =>
        .ok { r with type := some .networkMsg, networkMsgType := some msg,
                     networks := if msg = nlIAmRouter then some [] else r.networks } := by
  cases networkMsg with
  | none => exact readBody_data rest
  | some msg =>
    rw [Option.isSome_some, readBody_message rest]
    have none_left : routerNetworks d (pos + 1) = [] := by
      have := congrArg List.length rest
      simp only [List.length_drop, Option.elim_some, List.length_singleton] at this
      rw [routerNetworks, readEvery, if_neg (by omega)]
    rw [none_left]
    rfl

theorem parseResponse_original {func hi lo : UInt8} {npdu : List UInt8} (notResult : func ≠ bvlcResult)
    (notAck : func ≠ bvlcReadFdtAck) (notForwarded : func ≠ bvlcForwardedNpdu) (long : 2 ≤ npdu.length) :
    parseResponse (0x81 :: func :: hi :: lo :: npdu) =
      (readNpdu ⟨func, word (0x81 :: func :: hi :: lo :: npdu) 2, none, none, none, none, none, none, none,
        none, none, none, none⟩ npdu).map some := by
  unfold parseResponse
  simp only [List.getD_cons_succ, List.getD_cons_zero, List.length_cons]
  rw [if_neg (by simp), if_neg notResult, if_neg notAck, if_neg notForwarded, if_neg (by omega)]
  rfl

/-- `build_bvlc` writes the length of the packet masked to 16 bits, read back as
`bvlc_len`. -/
theorem word_buildBvlc (npdu : List UInt8) (isBroadcast : Bool) :
    word (buildBvlc npdu isBroadcast) 2 = (npdu.length + 4) % 65536 := by
  rw [Nat.add_comm]
  exact hiByte_lor_loByte_mod _

theorem parseResponse_buildBvlc (npdu : List UInt8) (isBroadcast : Bool) (long : 2 ≤ npdu.length) :
    parseResponse (buildBvlc npdu isBroadcast) =
      (readNpdu ⟨if isBroadcast then bvlcOriginalBroadcast else bvlcOriginalUnicast, (npdu.length + 4) % 65536,
        none, none, none, none, none, none, none, none, none, none, none⟩ npdu).map some := by
  rw [← word_buildBvlc npdu isBroadcast]
  cases isBroadcast <;> exact parseResponse_original (by decide) (by decide) (by decide) long

theorem readNpdu_stages {r : Response} {d : List UInt8} {f₁ f₂ f₃ : NpduFields} {p₁ p₂ p₃ : Nat}
    (dest : readDest d ⟨d.getD 1 0, d.getD 1 0 &&& 0x80 != 0, none, none, none, none, none⟩ 2 =
      (f₁, p₁))
    (source : readSource d f₁ p₁ = (f₂, p₂)) (hop : readHop d f₂ p₂ = (f₃, p₃)) :
    readNpdu r d = readBody { r with npdu := some f₃ } f₃.networkMsg d p₃ := by
  unfold readNpdu
  dsimp only
  rw [dest]
  dsimp only
  rw [source]
  dsimp only
  rw [hop]

theorem parseResponse_npdu {data : List UInt8} {s : Nat} (bvlc : 4 ≤ data.length ∧ data.getD 0 0 = 0x81)
    (notResult : data.getD 1 0 ≠ bvlcResult) (notAck : data.getD 1 0 ≠ bvlcReadFdtAck)
    (start : (if data.getD 1 0 = bvlcForwardedNpdu then 10 else 4) = s) (long : s + 2 ≤ data.length) :
    parseResponse data = (readNpdu ⟨data.getD 1 0, word data 2, none, none, none, none, none, none, none, none,
      none, none, none⟩ (data.drop s)).map some := by
  unfold parseResponse
  rw [if_neg fun h => h.elim (fun short => by omega) fun bad => bad bvlc.2]
  dsimp only
  rw [if_neg notResult, if_neg notAck, start, if_neg (by omega)]

/-! ### Requests read back -/

/-- The NPDU fields `parse_response` should report for the suite's
`build_npdu(apdu, dnet, dadr, expecting_reply, network_msg)`. -/
def requestFields (dnet : Option Nat) (dadr : List UInt8) (expectingReply : Bool)
    (networkMsg : Option UInt8) : NpduFields :=
  ⟨(if dnet.isSome then 0x20 else 0x00) ||| (if expectingReply then 0x04 else 0x00) |||
      (if networkMsg.isSome then 0x80 else 0x00),
    networkMsg.isSome, dnet, dnet.bind fun _ => if dadr = [] then none else some dadr, none, none,
    dnet.map fun _ => 0xFF⟩

/-- On the bytes of `build_npdu`, the header stages stop at the network message or the APDU
written after the header, with the fields written there. -/
theorem readNpdu_buildNpdu {apdu dadr npdu : List UInt8} {dnet : Option Nat} {expectingReply : Bool}
    {networkMsg : Option UInt8} (built : buildNpdu apdu dnet dadr expectingReply networkMsg = some npdu)
    (r : Response) :
    2 ≤ npdu.length ∧ ∃ pos, (npdu.drop pos = networkMsg.elim apdu fun msg => [msg]) ∧
      readNpdu r npdu = readBody { r with npdu := some (requestFields dnet dadr expectingReply networkMsg) }
        networkMsg.isSome npdu pos := by
  cases dnet with
  | none =>
    obtain ⟨dest, source, msg⟩ := control_bits (Or.inl rfl) expectingReply networkMsg.isSome
    rw [buildNpdu_local, Option.some.injEq] at built
    subst built
    refine ⟨by simp, 2, rfl, ?_⟩
    rw [readNpdu_local (by simpa using dest) source, msg]
    rfl
  | some net =>
    obtain ⟨dest, source, msg⟩ := control_bits (Or.inr rfl) expectingReply networkMsg.isSome
    obtain ⟨smallNet, fits, rfl⟩ := buildNpdu_routed built
    refine ⟨by simp, dadr.length + 6, ?_, ?_⟩
    · exact drop_append_cons_length
        (0x01 :: _ :: hiByte net :: loByte net :: UInt8.ofNat dadr.length :: dadr) _ 0xFF
    · rw [readNpdu_routed (by simpa using dest) source smallNet fits, msg]
      rfl

theorem map_some_elim (r : Response) (apdu : List UInt8) (networkMsg : Option UInt8) :
    Except.map some (networkMsg.elim (if apdu = [] then .ok r else classify r apdu) fun msg =>
        .ok { r with type := some .networkMsg, networkMsgType := some msg,
                     networks := if msg = nlIAmRouter then some [] else r.networks }) =
      networkMsg.elim (if apdu = [] then .ok (some r) else (classify r apdu).map some) fun msg =>
        .ok (some { r with type := some .networkMsg, networkMsgType := some msg,
                           networks := if msg = nlIAmRouter then some [] else r.networks }) := by
  cases networkMsg with
  | none =>
    by_cases empty : apdu = []
    · rw [Option.elim_none, Option.elim_none, if_pos empty, if_pos empty]; rfl
    · rw [Option.elim_none, Option.elim_none, if_neg empty, if_neg empty]
  | some msg => rfl

/-- What `parse_response` reports for a request of the suite wrapped by `build_bvlc`, of
any length: the length word `build_bvlc` masks to 16 bits, the destination and hop count
written, then the network message, or the APDU classified. -/
theorem parseResponse_request {apdu dadr npdu : List UInt8} {dnet : Option Nat} {expectingReply : Bool}
    {networkMsg : Option UInt8} (built : buildNpdu apdu dnet dadr expectingReply networkMsg = some npdu)
    (isBroadcast : Bool) :
    let r : Response := ⟨if isBroadcast then bvlcOriginalBroadcast else bvlcOriginalUnicast,
      (npdu.length + 4) % 65536, some (requestFields dnet dadr expectingReply networkMsg), none, none, none,
      none, none, none, none, none, none, none⟩
    parseResponse (buildBvlc npdu isBroadcast) =
      networkMsg.elim (if apdu = [] then .ok (some r) else (classify r apdu).map some) fun msg =>
        .ok (some { r with type := some .networkMsg, networkMsgType := some msg,
                           networks := if msg = nlIAmRouter then some [] else none }) := by
  obtain ⟨long, pos, rest, read⟩ := readNpdu_buildNpdu built
    ⟨if isBroadcast then bvlcOriginalBroadcast else bvlcOriginalUnicast, (npdu.length + 4) % 65536, none, none,
      none, none, none, none, none, none, none, none, none⟩
  rw [parseResponse_buildBvlc npdu isBroadcast long, read, readBody_tail apdu networkMsg rest]
  exact map_some_elim _ apdu networkMsg

theorem parseResponse_request_who_is :
    buildNpdu [0x10, 0x08] (some 65001) [] false none = some [0x01, 0x20, 0xFD, 0xE9, 0x00, 0xFF, 0x10, 0x08] ∧
      parseResponse (buildBvlc [0x01, 0x20, 0xFD, 0xE9, 0x00, 0xFF, 0x10, 0x08] true) =
        (classify ⟨bvlcOriginalBroadcast, 12, some (requestFields (some 65001) [] false none), none, none, none,
          none, none, none, none, none, none, none⟩ [0x10, 0x08]).map some :=
  ⟨rfl, @parseResponse_request [0x10, 0x08] [] [0x01, 0x20, 0xFD, 0xE9, 0x00, 0xFF, 0x10, 0x08] (some 65001)
    false none rfl true⟩

/-- `build_who_is_router(target)`, read back: a Who-Is-Router-To-Network message, with the
target network, when given, left unread. -/
theorem parseResponse_whoIsRouter {target : Option Nat} {npdu : List UInt8}
    (built : buildWhoIsRouter target = some npdu) (isBroadcast : Bool) :
    parseResponse (buildBvlc npdu isBroadcast) =
      .ok (some ⟨if isBroadcast then bvlcOriginalBroadcast else bvlcOriginalUnicast, npdu.length + 4,
        some (requestFields none [] false (some nlWhoIsRouter)), none, some .networkMsg, none, none,
        some nlWhoIsRouter, none, none, none, none, none⟩) := by
  obtain ⟨more, rfl, short⟩ : ∃ more : List UInt8,
      npdu = 0x01 :: (requestFields none [] false (some nlWhoIsRouter)).control :: nlWhoIsRouter :: more ∧
        more.length ≤ 2 := by
    cases target with
    | none => exact ⟨[], (Option.some.inj built).symm, by simp⟩
    | some net =>
      by_cases large : net ≥ 65536
      · simp only [buildWhoIsRouter, buildNpdu, Option.bind, if_pos large] at built
        cases built
      · simp only [buildWhoIsRouter, buildNpdu, Option.bind, if_neg large, Option.some.injEq] at built
        exact ⟨[hiByte net, loByte net], built.symm, by simp⟩
  have message : ((requestFields none [] false (some nlWhoIsRouter)).control &&& 0x80 != 0) = true := by
    decide
  have rest : (0x01 :: (requestFields none [] false (some nlWhoIsRouter)).control :: nlWhoIsRouter ::
      more).drop 2 = nlWhoIsRouter :: more := rfl
  rw [parseResponse_buildBvlc _ isBroadcast (by simp), Nat.mod_eq_of_lt (by simp; omega),
    readNpdu_local (by decide) (by decide), message, readBody_message rest,
    if_neg (show nlWhoIsRouter ≠ nlIAmRouter by decide)]
  rfl

example : parseResponse (buildBvlc [0x01, 0x80, 0x00, 0x03, 0xE8] false) =
    .ok (some ⟨bvlcOriginalUnicast, 9, some (requestFields none [] false (some nlWhoIsRouter)), none,
      some .networkMsg, none, none, some nlWhoIsRouter, none, none, none, none, none⟩) :=
  @parseResponse_whoIsRouter (some 1000) _ rfl false

/-! ### The exception -/

/-- An Unconfirmed I-Am of six bytes: `parse_response` reads its object identifier from
`apdu[3:7]`, which holds only three bytes. -/
def TruncatedIAm (apdu : List UInt8) : Prop :=
  apdu.length = 6 ∧ (apdu.getD 0 0 >>> 4) &&& 0x0F = 1 ∧ apdu.getD 1 0 = serviceIAm

instance : DecidablePred TruncatedIAm := fun _ => inferInstanceAs (Decidable (_ ∧ _ ∧ _))

/-- A case analysis of an `if` whose branches may raise. -/
theorem ite_eq_error {α : Type} {p : Prop} [Decidable p] {x y : Except ParseError α} {P : Prop}
    (left : x = .error .unpack → P) (right : y = .error .unpack → P) :
    (if p then x else y) = .error .unpack → P :=
  iteInduction (motive := fun z : Except ParseError α => z = .error .unpack → P) (fun _ => left) fun _ => right

theorem ok_ne_error {α : Type} {a : α} {P : Prop} : (Except.ok a : Except ParseError α) = .error .unpack → P :=
  fun h => Except.noConfusion h

theorem map_some_eq_error {x : Except ParseError Response} {e : ParseError} :
    x.map some = .error e ↔ x = .error e := by
  cases x with
  | error e' => simp only [Except.map, Except.error.injEq]
  | ok a => exact iff_of_false Except.noConfusion Except.noConfusion

theorem classify_eq_error {r : Response} {apdu : List UInt8} :
    classify r apdu = .error .unpack ↔ TruncatedIAm apdu := by
  unfold classify TruncatedIAm
  dsimp only
  by_cases unconfirmed : (apdu.getD 0 0 >>> 4) &&& 0x0F = 1
  · rw [if_pos unconfirmed]
    by_cases long : apdu.length ≥ 6
    · rw [if_pos (show apdu.length > 1 by omega)]
      by_cases iAm : apdu.getD 1 0 = serviceIAm
      · rw [if_pos ⟨by rw [iAm], long⟩]
        by_cases six : apdu.length = 6
        · rw [if_pos (by simp only [List.length_take, List.length_drop]; omega)]
          exact iff_of_true rfl ⟨six, unconfirmed, iAm⟩
        · rw [if_neg (by simp only [List.length_take, List.length_drop]; omega)]
          exact iff_of_false Except.noConfusion fun h => six h.1
      · rw [if_neg fun h => iAm (Option.some.inj h.1)]
        exact iff_of_false Except.noConfusion fun h => iAm h.2.2
    · rw [if_neg fun h => long h.2]
      exact iff_of_false Except.noConfusion fun h => long h.1.ge
  · rw [if_neg unconfirmed]
    refine iff_of_false ?_ fun h => unconfirmed h.2.1
    exact ite_eq_error ok_ne_error (ite_eq_error ok_ne_error (ite_eq_error ok_ne_error ok_ne_error))

theorem readBody_error {r : Response} {networkMsg : Bool} {d : List UInt8} {pos : Nat}
    (raised : readBody r networkMsg d pos = .error .unpack) : TruncatedIAm (d.drop pos) := by
  unfold readBody at raised
  dsimp only at raised
  exact ite_eq_error (ite_eq_error (ite_eq_error ok_ne_error ok_ne_error) ok_ne_error)
    (ite_eq_error classify_eq_error.mp ok_ne_error) raised

theorem readNpdu_error {r : Response} {d : List UInt8} (raised : readNpdu r d = .error .unpack) :
    ∃ pos, TruncatedIAm (d.drop pos) := by
  unfold readNpdu at raised
  dsimp only at raised
  exact ⟨_, readBody_error raised⟩

/-- A truncated I-Am found anywhere in the packet is its last six bytes. -/
theorem truncatedIAm_last {d : List UInt8} {k : Nat} (found : TruncatedIAm (d.drop k)) :
    TruncatedIAm (d.drop (d.length - 6)) := by
  have six := found.1
  rw [List.length_drop] at six
  rwa [show d.length - 6 = k by omega]

/-- `parse_response` raises on a request of the suite exactly when it carries an APDU that is
an Unconfirmed I-Am of six bytes. -/
theorem parseResponse_truncated_i_am {apdu dadr npdu : List UInt8} {dnet : Option Nat}
    {expectingReply : Bool} {networkMsg : Option UInt8}
    (built : buildNpdu apdu dnet dadr expectingReply networkMsg = some npdu) (isBroadcast : Bool) :
    parseResponse (buildBvlc npdu isBroadcast) = .error .unpack ↔ networkMsg = none ∧ TruncatedIAm apdu := by
  obtain ⟨long, pos, rest, read⟩ := readNpdu_buildNpdu built
    ⟨if isBroadcast then bvlcOriginalBroadcast else bvlcOriginalUnicast, (npdu.length + 4) % 65536, none, none,
      none, none, none, none, none, none, none, none, none⟩
  rw [parseResponse_buildBvlc npdu isBroadcast long, read, readBody_tail apdu networkMsg rest,
    map_some_eq_error]
  cases networkMsg with
  | some msg => exact iff_of_false ok_ne_error fun h => Option.noConfusion h.1
  | none =>
    rw [Option.elim_none, and_iff_right rfl]
    by_cases empty : apdu = []
    · rw [if_pos empty]
      exact iff_of_false ok_ne_error fun h => absurd h.1 (by rw [empty]; decide)
    · rw [if_neg empty, classify_eq_error]

theorem parseResponse_truncated_i_am_short :
    buildNpdu [0x10, 0x00, 0xC4, 0x02, 0x00, 0x00] none [] false none =
        some [0x01, 0x00, 0x10, 0x00, 0xC4, 0x02, 0x00, 0x00] ∧
      parseResponse (buildBvlc [0x01, 0x00, 0x10, 0x00, 0xC4, 0x02, 0x00, 0x00] false) = .error .unpack :=
  ⟨rfl, (@parseResponse_truncated_i_am [0x10, 0x00, 0xC4, 0x02, 0x00, 0x00] []
    [0x01, 0x00, 0x10, 0x00, 0xC4, 0x02, 0x00, 0x00] none false none rfl false).mpr
      ⟨rfl, by decide⟩⟩

theorem parseResponse_error {data : List UInt8} (raised : parseResponse data = .error .unpack) :
    TruncatedIAm (data.drop (data.length - 6)) := by
  unfold parseResponse at raised
  dsimp only at raised
  refine ite_eq_error ok_ne_error (ite_eq_error ok_ne_error (ite_eq_error ok_ne_error
    (ite_eq_error ok_ne_error fun npdu => ?_))) raised
  obtain ⟨pos, found⟩ := readNpdu_error (map_some_eq_error.mp npdu)
  rw [List.drop_drop] at found
  exact truncatedIAm_last found

theorem parseResponse_error_short_i_am :
    parseResponse [0x81, 0x0A, 0x00, 0x0C, 0x01, 0x00, 0x10, 0x00, 0xC4, 0x02, 0x00, 0x00] = .error .unpack ∧
      TruncatedIAm [0x10, 0x00, 0xC4, 0x02, 0x00, 0x00] :=
  ⟨rfl, @parseResponse_error [0x81, 0x0A, 0x00, 0x0C, 0x01, 0x00, 0x10, 0x00, 0xC4, 0x02, 0x00, 0x00] rfl⟩

/-! ### Read-Foreign-Device-Table-Ack -/

/-- A Read-Foreign-Device-Table-Ack: every whole entry of ten bytes after the header is
read at its offset, and a trailing partial entry is ignored. -/
theorem parseResponse_fdtAck (hi lo : UInt8) (body : List UInt8) :
    parseResponse (0x81 :: bvlcReadFdtAck :: hi :: lo :: body) =
      .ok (some ⟨bvlcReadFdtAck, word (0x81 :: bvlcReadFdtAck :: hi :: lo :: body) 2, none, none, some .fdtAck,
        none, some ((List.range (body.length / 10)).map fun k =>
          fdtEntryAt (0x81 :: bvlcReadFdtAck :: hi :: lo :: body) (4 + 10 * k)),
        none, none, none, none, none, none⟩) := by
  unfold parseResponse
  simp only [List.getD_cons_succ, List.getD_cons_zero, List.length_cons]
  rw [if_neg (by simp), if_neg (by decide), if_pos trivial, fdtEntries, readEvery_eq]
  rfl

end MstpLink.GatewayFull
