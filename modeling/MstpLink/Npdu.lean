import MstpLink.Crc

/-! The BACnet network layer as the gateway tests write it and as the tests and the
sniffer read it back.

`test_gateway_routing.py` builds requests with `build_npdu`, wraps them with
`build_bvlc`, and reads replies with `parse_bvlc` and `parse_npdu`; the sniffer of
`mstp_sniffer.py` finds the APDU of a data frame with `decode_npdu`. The Python
exceptions of `build_npdu` (`struct.pack('>H', dnet)` and `bytes([len(dadr)])` out of
range) are `none`. The `dadr` argument, `None` or bytes, is a list with `[]` for `None`:
`build_npdu` tests it with `if dadr:`, which treats both alike.

## Main result

`npdu_round_trip`: whatever `build_npdu` accepts, `parse_bvlc` of its `build_bvlc`
wrapping gives it back, `parse_npdu` recovers the destination, the hop count and the
APDU, and `decode_npdu` of the sniffer sets `apdu_offset` at the first byte of the APDU.

## Proof strategy

The parsers are written as their stages (destination, source, hop count and APDU), each
a function of the bytes, the fields found so far and the position. On the bytes of
`build_npdu` the source stage is skipped, and each other stage reads exactly the field
that `build_npdu` wrote at that position. -/

namespace MstpLink.Gateway

/-- `BVLC_ORIGINAL_UNICAST`. -/
def bvlcOriginalUnicast : UInt8 := 0x0A
/-- `BVLC_ORIGINAL_BROADCAST`. -/
def bvlcOriginalBroadcast : UInt8 := 0x0B
/-- `BVLC_FORWARDED_NPDU`. -/
def bvlcForwardedNpdu : UInt8 := 0x04

/-- `(data[pos] << 8) | data[pos+1]`. -/
def word (data : List UInt8) (pos : Nat) : Nat :=
  (data.getD pos 0).toNat <<< 8 ||| (data.getD (pos + 1) 0).toNat

/-- `build_npdu(apdu, dnet, dadr, expecting_reply)` of `test_gateway_routing.py`, `none`
where Python raises. -/
def buildNpdu (apdu : List UInt8) (dnet : Option Nat) (dadr : List UInt8) (expectingReply : Bool) :
    Option (List UInt8) :=
  let control : UInt8 := (if dnet.isSome then 0x20 else 0x00) ||| (if expectingReply then 0x04 else 0x00)
  match dnet with
  | none => some ([0x01, control] ++ apdu)
  | some net =>
    if net ≥ 65536 then none
    else if dadr ≠ [] ∧ dadr.length ≥ 256 then none
    else
      some ([0x01, control] ++ [hiByte net, loByte net] ++
        (if dadr ≠ [] then [UInt8.ofNat dadr.length] ++ dadr else [0]) ++ [0xFF] ++ apdu)

/-- `build_bvlc(npdu, is_broadcast)`. -/
def buildBvlc (npdu : List UInt8) (isBroadcast : Bool) : List UInt8 :=
  let func := if isBroadcast then bvlcOriginalBroadcast else bvlcOriginalUnicast
  let length := 4 + npdu.length
  [0x81, func, UInt8.ofNat ((length >>> 8) &&& 0xFF), UInt8.ofNat (length &&& 0xFF)] ++ npdu

/-- The origin of a Forwarded-NPDU, the IP address and the port that `parse_bvlc` prints as
`"a.b.c.d:port"`. -/
structure Origin where
  ip : UInt8 × UInt8 × UInt8 × UInt8
  port : Nat
  deriving DecidableEq, Repr

/-- `parse_bvlc(data)`: the function code, the origin of a Forwarded-NPDU, and the NPDU;
`none` for `(None, None, None)`. -/
def parseBvlc (data : List UInt8) : Option (UInt8 × Option Origin × List UInt8) :=
  if data.length < 4 ∨ data.getD 0 0 ≠ 0x81 then none
  else
    let func := data.getD 1 0
    if func = bvlcForwardedNpdu then
      if data.length < 10 then none
      else some (func, some ⟨(data.getD 4 0, data.getD 5 0, data.getD 6 0, data.getD 7 0), word data 8⟩,
        data.drop 10)
    else some (func, none, data.drop 4)

/-- The dictionary `parse_npdu` returns. -/
structure NpduInfo where
  version : UInt8
  control : UInt8
  networkMsg : Bool
  dnet : Option Nat
  dadr : Option (List UInt8)
  snet : Option Nat
  sadr : Option (List UInt8)
  hopCount : Option UInt8
  apdu : Option (List UInt8)
  deriving DecidableEq, Repr

/-- The end of `parse_npdu` from `pos`: the hop count after a destination, then the APDU
unless the NPDU carries a network layer message. -/
def parseHop (data : List UInt8) (r : NpduInfo) (pos : Nat) : NpduInfo :=
  let (r, pos) :=
    if r.control &&& 0x20 ≠ 0 then
      if pos < data.length then ({ r with hopCount := some (data.getD pos 0) }, pos + 1) else (r, pos)
    else (r, pos)
  if !r.networkMsg ∧ pos < data.length then { r with apdu := some (data.drop pos) } else r

/-- The source specifier of `parse_npdu` at `pos`, then the rest; a truncated specifier
returns what was found so far. -/
def parseSource (data : List UInt8) (r : NpduInfo) (pos : Nat) : NpduInfo :=
  if r.control &&& 0x08 ≠ 0 then
    if pos + 3 > data.length then r
    else
      let r := { r with snet := some (word data pos) }
      let slen := (data.getD (pos + 2) 0).toNat
      if slen > 0 then
        if pos + 3 + slen > data.length then r
        else parseHop data { r with sadr := some ((data.drop (pos + 3)).take slen) } (pos + 3 + slen)
      else parseHop data r (pos + 3)
  else parseHop data r pos

/-- The destination specifier of `parse_npdu` at `pos`, then the rest. -/
def parseDest (data : List UInt8) (r : NpduInfo) (pos : Nat) : NpduInfo :=
  if r.control &&& 0x20 ≠ 0 then
    if pos + 3 > data.length then r
    else
      let r := { r with dnet := some (word data pos) }
      let dlen := (data.getD (pos + 2) 0).toNat
      if dlen > 0 then
        if pos + 3 + dlen > data.length then r
        else parseSource data { r with dadr := some ((data.drop (pos + 3)).take dlen) } (pos + 3 + dlen)
      else parseSource data r (pos + 3)
  else parseSource data r pos

/-- `parse_npdu(data)` of `test_gateway_routing.py`. -/
def parseNpdu (data : List UInt8) : Option NpduInfo :=
  if data.length < 2 then none
  else
    let control := data.getD 1 0
    some (parseDest data ⟨data.getD 0 0, control, control &&& 0x80 != 0, none, none, none, none, none,
      none⟩ 2)


/-- The control byte `build_npdu` writes: bit 5 when routed, bit 2 when a reply is
expected, and no source, network-message or priority bit. -/
theorem control_bits {base : UInt8} (routing : base = 0x00 ∨ base = 0x20) (expectingReply : Bool) :
    let c : UInt8 := base ||| (if expectingReply then 0x04 else 0x00)
    (c &&& 0x20 != 0) = (base == 0x20) ∧ c &&& 0x08 = 0 ∧ c &&& 0x80 = 0 ∧
      (c &&& 0x04 != 0) = expectingReply ∧ c &&& 0x03 = 0 := by
  rcases routing with rfl | rfl <;> cases expectingReply <;> decide

/-! ### What `build_npdu` writes -/

theorem buildNpdu_local (apdu dadr : List UInt8) (expectingReply : Bool) :
    buildNpdu apdu none dadr expectingReply =
      some (0x01 :: (0x00 ||| (if expectingReply then 0x04 else 0x00)) :: apdu) :=
  rfl

/-- The destination address field: its length byte, then the address, also when empty. -/
theorem dadr_field {dadr : List UInt8} :
    (if dadr ≠ [] then [UInt8.ofNat dadr.length] ++ dadr else [0]) = UInt8.ofNat dadr.length :: dadr := by
  split_ifs with empty
  · rfl
  · rw [not_not.mp empty]; rfl

/-- A routed NPDU that `build_npdu` accepts: the header up to the address, then the hop
count `0xFF`, then the APDU. -/
theorem buildNpdu_routed {apdu dadr npdu : List UInt8} {net : Nat} {expectingReply : Bool}
    (built : buildNpdu apdu (some net) dadr expectingReply = some npdu) :
    net < 65536 ∧ dadr.length < 256 ∧
      npdu = 0x01 :: (0x20 ||| (if expectingReply then 0x04 else 0x00)) :: hiByte net :: loByte net ::
          UInt8.ofNat dadr.length :: (dadr ++ 0xFF :: apdu) := by
  dsimp only [buildNpdu] at built
  by_cases large : net ≥ 65536
  · rw [if_pos large] at built; cases built
  by_cases wide : dadr ≠ [] ∧ dadr.length ≥ 256
  · rw [if_neg large, if_pos wide] at built; cases built
  rw [if_neg large, if_neg wide, dadr_field, Option.some.injEq] at built
  refine ⟨by omega, ?_, by simp [← built]⟩
  by_cases empty : dadr = []
  · simp [empty]
  · exact Nat.lt_of_not_le fun h => wide ⟨empty, h⟩

/-! ### `parse_npdu`, stage by stage -/

theorem parseNpdu_cons (version control : UInt8) (rest : List UInt8) :
    parseNpdu (version :: control :: rest) =
      some (parseDest (version :: control :: rest)
        ⟨version, control, control &&& 0x80 != 0, none, none, none, none, none, none⟩ 2) :=
  rfl

theorem parseDest_local {data : List UInt8} {r : NpduInfo} {pos : Nat}
    (dest : r.control &&& 0x20 = 0) : parseDest data r pos = parseSource data r pos := by
  rw [parseDest, if_neg (not_not.mpr dest)]

theorem parseDest_routed {data : List UInt8} {r : NpduInfo} {pos : Nat}
    (dest : r.control &&& 0x20 ≠ 0) {dadr : List UInt8} (long : pos + 3 + dadr.length ≤ data.length)
    (dlen : (data.getD (pos + 2) 0).toNat = dadr.length)
    (address : (data.drop (pos + 3)).take dadr.length = dadr) :
    parseDest data r pos =
      parseSource data { r with dnet := some (word data pos),
                                dadr := if dadr = [] then r.dadr else some dadr }
        (pos + 3 + dadr.length) := by
  unfold parseDest
  rw [if_pos dest, if_neg (by omega)]
  dsimp only
  rw [dlen]
  rcases dadr with _ | ⟨x, rest⟩
  · rfl
  · rw [if_pos (by simp), if_neg (by omega), address]
    rfl

theorem parseSource_of_no_source {data : List UInt8} {r : NpduInfo} {pos : Nat}
    (source : r.control &&& 0x08 = 0) : parseSource data r pos = parseHop data r pos := by
  rw [parseSource, if_neg (not_not.mpr source)]

theorem parseHop_local {data : List UInt8} {r : NpduInfo} {pos : Nat} (dest : r.control &&& 0x20 = 0)
    (notMsg : r.networkMsg = false) :
    parseHop data r pos = { r with apdu := if pos < data.length then some (data.drop pos) else r.apdu } := by
  unfold parseHop
  rw [if_neg (not_not.mpr dest)]
  dsimp only
  by_cases more : pos < data.length
  · rw [if_pos ⟨by simp [notMsg], more⟩, if_pos more]
  · rw [if_neg (fun h => more h.2), if_neg more]

theorem parseHop_routed {data : List UInt8} {r : NpduInfo} {pos : Nat} (dest : r.control &&& 0x20 ≠ 0)
    (notMsg : r.networkMsg = false) (inside : pos < data.length) (hop : data.getD pos 0 = 0xFF) :
    parseHop data r pos =
      { r with hopCount := some 0xFF,
               apdu := if pos + 1 < data.length then some (data.drop (pos + 1)) else r.apdu } := by
  unfold parseHop
  rw [if_pos dest, if_pos inside, hop]
  dsimp only
  by_cases more : pos + 1 < data.length
  · rw [if_pos ⟨by simp [notMsg], more⟩, if_pos more]
  · rw [if_neg (fun h => more h.2), if_neg more]

theorem getD_append_cons_length (pre rest : List UInt8) (b : UInt8) :
    (pre ++ b :: rest).getD pre.length 0 = b := by
  rw [List.getD_append_right _ _ _ _ (le_refl _), Nat.sub_self, List.getD_cons_zero]

theorem drop_append_cons_length (pre rest : List UInt8) (b : UInt8) :
    (pre ++ b :: rest).drop (pre.length + 1) = rest := by
  rw [List.drop_append]; rfl

/-- `parse_npdu` of an NPDU with neither destination nor source: the APDU follows the
control byte. -/
theorem parseNpdu_local {c : UInt8} (dest : c &&& 0x20 = 0) (source : c &&& 0x08 = 0)
    (msg : c &&& 0x80 = 0) (apdu : List UInt8) :
    parseNpdu (0x01 :: c :: apdu) =
      some ⟨0x01, c, false, none, none, none, none, none, if apdu = [] then none else some apdu⟩ := by
  rw [parseNpdu_cons, parseDest_local, parseSource_of_no_source, parseHop_local]
  · rcases apdu with _ | ⟨x, apdu⟩ <;> simp [msg]
  · exact dest
  · simp [msg]
  · exact source
  · exact dest

/-- `parse_npdu` of an NPDU with a destination and no source: the network, the address,
the hop count and the APDU, each read where it was written. -/
theorem parseNpdu_routed {c : UInt8} (dest : c &&& 0x20 ≠ 0) (source : c &&& 0x08 = 0)
    (msg : c &&& 0x80 = 0) {net : Nat} (small : net < 65536) {dadr : List UInt8}
    (fits : dadr.length < 256) (apdu : List UInt8) :
    parseNpdu (0x01 :: c :: hiByte net :: loByte net :: UInt8.ofNat dadr.length :: (dadr ++ 0xFF :: apdu)) =
      some ⟨0x01, c, false, some net, if dadr = [] then none else some dadr, none, none, some 0xFF,
        if apdu = [] then none else some apdu⟩ := by
  have header : (0x01 :: c :: hiByte net :: loByte net :: UInt8.ofNat dadr.length :: dadr).length =
      2 + 3 + dadr.length := by simp; omega
  have hop := getD_append_cons_length
    (0x01 :: c :: hiByte net :: loByte net :: UInt8.ofNat dadr.length :: dadr) apdu 0xFF
  have rest := drop_append_cons_length
    (0x01 :: c :: hiByte net :: loByte net :: UInt8.ofNat dadr.length :: dadr) apdu 0xFF
  have dlen : ((0x01 :: c :: hiByte net :: loByte net :: UInt8.ofNat dadr.length ::
      (dadr ++ 0xFF :: apdu)).getD (2 + 2) 0).toNat = dadr.length := toNat_ofNat_of_lt_256 fits
  have network : word (0x01 :: c :: hiByte net :: loByte net :: UInt8.ofNat dadr.length ::
      (dadr ++ 0xFF :: apdu)) 2 = net := hiByte_lor_loByte small
  rw [header] at hop rest
  simp only [List.cons_append] at hop rest
  rw [parseNpdu_cons, parseDest_routed ?_ (by simp; omega) dlen (List.take_left' rfl),
    parseSource_of_no_source, parseHop_routed ?_ ?_ (by simp; omega) hop, network, rest]
  · rcases apdu with _ | ⟨x, apdu⟩ <;> by_cases empty : dadr = [] <;> simp [empty, msg] <;> omega
  · exact dest
  · simp [msg]
  · exact source
  · exact dest

/-- What `parse_npdu` should report for `build_npdu(apdu, dnet, dadr, expecting_reply)`:
version 1, the control byte written, the destination with hop count `0xFF` when routed,
and the APDU when it is not empty. -/
def NpduInfo.expected (apdu : List UInt8) (dnet : Option Nat) (dadr : List UInt8)
    (expectingReply : Bool) : NpduInfo :=
  ⟨0x01, (if dnet.isSome then 0x20 else 0x00) ||| (if expectingReply then 0x04 else 0x00), false, dnet,
    if dnet.isSome ∧ dadr ≠ [] then some dadr else none, none, none, dnet.map fun _ => 0xFF,
    if apdu = [] then none else some apdu⟩

theorem parseNpdu_buildNpdu {apdu : List UInt8} {dnet : Option Nat} {dadr : List UInt8}
    {expectingReply : Bool} {npdu : List UInt8}
    (built : buildNpdu apdu dnet dadr expectingReply = some npdu) :
    parseNpdu npdu = some (NpduInfo.expected apdu dnet dadr expectingReply) := by
  cases dnet with
  | none =>
    obtain ⟨dest, source, msg, -⟩ := control_bits (Or.inl rfl) expectingReply
    rw [buildNpdu_local, Option.some.injEq] at built
    subst built
    rw [parseNpdu_local (by simpa using dest) source msg]
    rfl
  | some net =>
    obtain ⟨dest, source, msg, -⟩ := control_bits (Or.inr rfl) expectingReply
    obtain ⟨small, fits, rfl⟩ := buildNpdu_routed built
    rw [parseNpdu_routed (by simpa using dest) source msg small fits]
    by_cases empty : dadr = [] <;> simp [NpduInfo.expected, empty]

/-- `build_bvlc` then `parse_bvlc`: the function code written and the NPDU, whatever its
length. -/
theorem parseBvlc_buildBvlc (npdu : List UInt8) (isBroadcast : Bool) :
    parseBvlc (buildBvlc npdu isBroadcast) =
      some (if isBroadcast then bvlcOriginalBroadcast else bvlcOriginalUnicast, none, npdu) := by
  cases isBroadcast <;> rfl

end MstpLink.Gateway

namespace MstpLink.Sniffer

open Gateway

/-- The error texts of `decode_npdu`. -/
inductive NpduError
  | tooShort
  | unknownVersion (version : UInt8)
  deriving DecidableEq, Repr

/-- The dictionary `decode_npdu` returns. -/
structure NpduInfo where
  version : UInt8
  control : UInt8
  networkMsg : Bool
  dnetPresent : Bool
  snetPresent : Bool
  expectingReply : Bool
  priority : UInt8
  dnet : Option Nat
  dlen : Option Nat
  dadr : Option (List UInt8)
  snet : Option Nat
  slen : Option Nat
  sadr : Option (List UInt8)
  hopCount : Option UInt8
  apduOffset : Nat
  deriving DecidableEq, Repr

/-- The destination network of `decode_npdu`, read only when more than three bytes
follow `offset`. -/
def decodeDest (data : List UInt8) (info : NpduInfo) (offset : Nat) : NpduInfo × Nat :=
  if info.dnetPresent ∧ data.length > offset + 3 then
    let dlen := (data.getD (offset + 2) 0).toNat
    let info := { info with dnet := some (word data offset), dlen := some dlen }
    if dlen > 0 ∧ data.length > offset + 3 + dlen then
      ({ info with dadr := some ((data.drop (offset + 3)).take dlen) }, offset + 3 + dlen)
    else (info, offset + 3)
  else (info, offset)

/-- The source network of `decode_npdu`. -/
def decodeSource (data : List UInt8) (info : NpduInfo) (offset : Nat) : NpduInfo × Nat :=
  if info.snetPresent ∧ data.length > offset + 3 then
    let slen := (data.getD (offset + 2) 0).toNat
    let info := { info with snet := some (word data offset), slen := some slen }
    if slen > 0 ∧ data.length > offset + 3 + slen then
      ({ info with sadr := some ((data.drop (offset + 3)).take slen) }, offset + 3 + slen)
    else (info, offset + 3)
  else (info, offset)

/-- The hop count of `decode_npdu`. -/
def decodeHop (data : List UInt8) (info : NpduInfo) (offset : Nat) : NpduInfo × Nat :=
  if info.dnetPresent ∧ data.length > offset then
    ({ info with hopCount := some (data.getD offset 0) }, offset + 1)
  else (info, offset)

/-- `decode_npdu(data)`: the header fields and `apdu_offset`, or the error text. -/
def decodeNpdu (data : List UInt8) : Except NpduError NpduInfo :=
  if data.length < 2 then .error .tooShort
  else if data.getD 0 0 ≠ 0x01 then .error (.unknownVersion (data.getD 0 0))
  else
    let control := data.getD 1 0
    let info : NpduInfo := ⟨data.getD 0 0, control, control &&& 0x80 != 0, control &&& 0x20 != 0,
      control &&& 0x08 != 0, control &&& 0x04 != 0, control &&& 0x03, none, none, none, none, none,
      none, none, 0⟩
    let (info, offset) := decodeDest data info 2
    let (info, offset) := decodeSource data info offset
    let (info, offset) := decodeHop data info offset
    .ok { info with apduOffset := offset }


/-! ### `decode_npdu`, stage by stage -/

theorem decodeDest_local {data : List UInt8} {info : NpduInfo} {offset : Nat}
    (dest : info.dnetPresent = false) : decodeDest data info offset = (info, offset) := by
  rw [decodeDest, if_neg (by simp [dest])]

theorem decodeDest_routed {data : List UInt8} {info : NpduInfo} {offset : Nat}
    (dest : info.dnetPresent = true) {dadr : List UInt8} (long : offset + 3 + dadr.length < data.length)
    (dlen : (data.getD (offset + 2) 0).toNat = dadr.length)
    (address : (data.drop (offset + 3)).take dadr.length = dadr) :
    decodeDest data info offset =
      ({ info with dnet := some (word data offset), dlen := some dadr.length,
                   dadr := if dadr = [] then info.dadr else some dadr },
        offset + 3 + dadr.length) := by
  unfold decodeDest
  rw [if_pos ⟨dest, by omega⟩]
  dsimp only
  rw [dlen]
  rcases dadr with _ | ⟨x, rest⟩
  · rw [if_neg (by simp)]; rfl
  · rw [if_pos ⟨by simp, long⟩, address]; rfl

theorem decodeSource_of_no_source {data : List UInt8} {info : NpduInfo} {offset : Nat}
    (source : info.snetPresent = false) : decodeSource data info offset = (info, offset) := by
  rw [decodeSource, if_neg (by simp [source])]

theorem decodeHop_local {data : List UInt8} {info : NpduInfo} {offset : Nat}
    (dest : info.dnetPresent = false) : decodeHop data info offset = (info, offset) := by
  rw [decodeHop, if_neg (by simp [dest])]

theorem decodeHop_routed {data : List UInt8} {info : NpduInfo} {offset : Nat}
    (dest : info.dnetPresent = true) (inside : offset < data.length) :
    decodeHop data info offset = ({ info with hopCount := some (data.getD offset 0) }, offset + 1) := by
  rw [decodeHop, if_pos ⟨dest, inside⟩]

theorem decodeNpdu_cons (c : UInt8) (rest : List UInt8) :
    decodeNpdu (0x01 :: c :: rest) =
      let info : NpduInfo := ⟨0x01, c, c &&& 0x80 != 0, c &&& 0x20 != 0, c &&& 0x08 != 0,
        c &&& 0x04 != 0, c &&& 0x03, none, none, none, none, none, none, none, 0⟩
      let (info, offset) := decodeDest (0x01 :: c :: rest) info 2
      let (info, offset) := decodeSource (0x01 :: c :: rest) info offset
      let (info, offset) := decodeHop (0x01 :: c :: rest) info offset
      .ok { info with apduOffset := offset } := by
  rw [decodeNpdu, if_neg (by simp), if_neg (by simp)]
  simp only [List.getD_cons_zero, List.getD_cons_succ]

/-- `decode_npdu` of an NPDU with neither destination nor source: the APDU starts after
the control byte. -/
theorem decodeNpdu_local {c : UInt8} (dest : c &&& 0x20 = 0) (source : c &&& 0x08 = 0)
    (apdu : List UInt8) :
    decodeNpdu (0x01 :: c :: apdu) =
      .ok ⟨0x01, c, c &&& 0x80 != 0, false, false, c &&& 0x04 != 0, c &&& 0x03, none, none, none,
        none, none, none, none, 2⟩ := by
  rw [decodeNpdu_cons]
  dsimp only
  rw [decodeDest_local ?_]
  dsimp only
  rw [decodeSource_of_no_source ?_]
  dsimp only
  rw [decodeHop_local ?_]
  · simp [dest, source]
  all_goals simp [dest, source]

/-- `decode_npdu` of an NPDU with a destination and no source: `apdu_offset` is past the
address and the hop count. -/
theorem decodeNpdu_routed {c : UInt8} (dest : c &&& 0x20 ≠ 0) (source : c &&& 0x08 = 0)
    {net : Nat} (small : net < 65536) {dadr : List UInt8} (fits : dadr.length < 256)
    (apdu : List UInt8) :
    decodeNpdu (0x01 :: c :: hiByte net :: loByte net :: UInt8.ofNat dadr.length :: (dadr ++ 0xFF :: apdu)) =
      .ok ⟨0x01, c, c &&& 0x80 != 0, true, false, c &&& 0x04 != 0, c &&& 0x03, some net,
        some dadr.length, if dadr = [] then none else some dadr, none, none, none, some 0xFF,
        dadr.length + 6⟩ := by
  have header : (0x01 :: c :: hiByte net :: loByte net :: UInt8.ofNat dadr.length :: dadr).length =
      2 + 3 + dadr.length := by simp; omega
  have hop := getD_append_cons_length
    (0x01 :: c :: hiByte net :: loByte net :: UInt8.ofNat dadr.length :: dadr) apdu 0xFF
  have dlen : ((0x01 :: c :: hiByte net :: loByte net :: UInt8.ofNat dadr.length ::
      (dadr ++ 0xFF :: apdu)).getD (2 + 2) 0).toNat = dadr.length := toNat_ofNat_of_lt_256 fits
  have network : word (0x01 :: c :: hiByte net :: loByte net :: UInt8.ofNat dadr.length ::
      (dadr ++ 0xFF :: apdu)) 2 = net := hiByte_lor_loByte small
  rw [header] at hop
  simp only [List.cons_append] at hop
  rw [decodeNpdu_cons]
  dsimp only
  rw [decodeDest_routed ?_ (by simp; omega) dlen (List.take_left' rfl)]
  dsimp only
  rw [decodeSource_of_no_source ?_]
  dsimp only
  rw [decodeHop_routed ?_ (by simp; omega), hop, network, show 2 + 3 + dadr.length + 1 = dadr.length + 6 by omega]
  · by_cases empty : dadr = [] <;> simp [empty, dest, source]
  all_goals simp [dest, source]

/-- What `decode_npdu` should report for `build_npdu(apdu, dnet, dadr, expecting_reply)`,
whatever the APDU: the flags of the control byte written, the destination with its length and hop count
`0xFF` when routed, and `apdu_offset` at the first byte of the APDU. -/
def NpduInfo.expected (dnet : Option Nat) (dadr : List UInt8) (expectingReply : Bool) : NpduInfo :=
  ⟨0x01, (if dnet.isSome then 0x20 else 0x00) ||| (if expectingReply then 0x04 else 0x00), false,
    dnet.isSome, false, expectingReply, 0, dnet, dnet.map fun _ => dadr.length,
    if dnet.isSome ∧ dadr ≠ [] then some dadr else none, none, none, none, dnet.map fun _ => 0xFF,
    if dnet.isSome then dadr.length + 6 else 2⟩

theorem decodeNpdu_buildNpdu {apdu : List UInt8} {dnet : Option Nat} {dadr : List UInt8}
    {expectingReply : Bool} {npdu : List UInt8}
    (built : buildNpdu apdu dnet dadr expectingReply = some npdu) :
    decodeNpdu npdu = .ok (NpduInfo.expected dnet dadr expectingReply) := by
  cases dnet with
  | none =>
    obtain ⟨dest, source, msg, reply, priority⟩ := control_bits (Or.inl rfl) expectingReply
    rw [buildNpdu_local, Option.some.injEq] at built
    subst built
    rw [decodeNpdu_local (by simpa using dest) source]
    simp [NpduInfo.expected, msg, reply, priority]
  | some net =>
    obtain ⟨dest, source, msg, reply, priority⟩ := control_bits (Or.inr rfl) expectingReply
    obtain ⟨small, fits, rfl⟩ := buildNpdu_routed built
    rw [decodeNpdu_routed (by simpa using dest) source small fits]
    by_cases empty : dadr = [] <;> simp [NpduInfo.expected, empty, msg, reply, priority]

/-- The APDU is what follows `apdu_offset` in every NPDU `build_npdu` writes. -/
theorem drop_apduOffset {apdu : List UInt8} {dnet : Option Nat} {dadr : List UInt8}
    {expectingReply : Bool} {npdu : List UInt8}
    (built : buildNpdu apdu dnet dadr expectingReply = some npdu) :
    npdu.drop (NpduInfo.expected dnet dadr expectingReply).apduOffset = apdu := by
  cases dnet with
  | none =>
    rw [buildNpdu_local, Option.some.injEq] at built
    subst built
    rfl
  | some net =>
    obtain ⟨-, -, rfl⟩ := buildNpdu_routed built
    have rest := drop_append_cons_length
      (0x01 :: (0x20 ||| (if expectingReply then 0x04 else 0x00)) :: hiByte net :: loByte net :: UInt8.ofNat dadr.length :: dadr) apdu 0xFF
    simp only [List.cons_append, List.length_cons] at rest
    exact rest

end MstpLink.Sniffer

namespace MstpLink.Gateway

/-- Every NPDU `build_npdu` accepts comes back whole: `parse_bvlc` of its `build_bvlc`
wrapping returns the function code and the NPDU, `parse_npdu` reports the destination,
the hop count `0xFF` and the APDU written, and the sniffer's `decode_npdu` reports the
same destination and sets `apdu_offset` at the first byte of the APDU. -/
theorem npdu_round_trip {apdu dadr npdu : List UInt8} {dnet : Option Nat} {expectingReply : Bool}
    (built : buildNpdu apdu dnet dadr expectingReply = some npdu) (isBroadcast : Bool) :
    parseBvlc (buildBvlc npdu isBroadcast) =
        some (if isBroadcast then bvlcOriginalBroadcast else bvlcOriginalUnicast, none, npdu) ∧
      parseNpdu npdu = some (NpduInfo.expected apdu dnet dadr expectingReply) ∧
      Sniffer.decodeNpdu npdu = .ok (Sniffer.NpduInfo.expected dnet dadr expectingReply) ∧
      npdu.drop (Sniffer.NpduInfo.expected dnet dadr expectingReply).apduOffset = apdu :=
  ⟨parseBvlc_buildBvlc npdu isBroadcast, parseNpdu_buildNpdu built, Sniffer.decodeNpdu_buildNpdu built,
    Sniffer.drop_apduOffset built⟩

/-- The Who-Is that the routing test broadcasts to the MS/TP network 65001. -/
theorem npdu_round_trip_who_is :
    buildNpdu [0x10, 0x08] (some 65001) [] false = some [0x01, 0x20, 0xFD, 0xE9, 0x00, 0xFF, 0x10, 0x08] ∧
      parseBvlc (buildBvlc [0x01, 0x20, 0xFD, 0xE9, 0x00, 0xFF, 0x10, 0x08] true) =
          some (if true then bvlcOriginalBroadcast else bvlcOriginalUnicast, none,
            [0x01, 0x20, 0xFD, 0xE9, 0x00, 0xFF, 0x10, 0x08]) ∧
        parseNpdu [0x01, 0x20, 0xFD, 0xE9, 0x00, 0xFF, 0x10, 0x08] =
          some (NpduInfo.expected [0x10, 0x08] (some 65001) [] false) ∧
        Sniffer.decodeNpdu [0x01, 0x20, 0xFD, 0xE9, 0x00, 0xFF, 0x10, 0x08] =
          .ok (Sniffer.NpduInfo.expected (some 65001) [] false) ∧
        ([0x01, 0x20, 0xFD, 0xE9, 0x00, 0xFF, 0x10, 0x08] : List UInt8).drop
          (Sniffer.NpduInfo.expected (some 65001) [] false).apduOffset = [0x10, 0x08] :=
  ⟨rfl, @npdu_round_trip [0x10, 0x08] [] [0x01, 0x20, 0xFD, 0xE9, 0x00, 0xFF, 0x10, 0x08] (some 65001) false
    rfl true⟩

end MstpLink.Gateway
