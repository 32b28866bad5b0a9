import MstpLink.Crc

/-! The byte-at-a-time decoder of `mstp_sniffer.py` and the frames of
`mstp_test_sender.py`, which the sniffer's CRCs check.

`MstpSniffer.process_byte` appends every byte to `self.buffer` before it looks at the
state, and reads the header at the fixed offsets 2 to 7 of that buffer once it holds
8 bytes. Only the `IDLE` branch restarts the buffer at a `0x55`; the `PREAMBLE`
branch that stays on a repeated `0x55` keeps the byte appended, so the preamble that
follows is read one byte late. After seven or more `0x55` the `0xFF` enters `HEADER`
with eight bytes already buffered; the header is read only at exactly eight, so it is
never read and no later byte completes a frame (`feed_of_header_overfull`). The `verbose` and `show_hex` flags only select
diagnostics, and `format_frame` only formats the completed fields, so neither is
modelled. -/

namespace MstpLink.TestSender

/-- `build_mstp_frame(frame_type, dest_addr, src_addr, data)`. Unlike `build_frame`, an
empty payload given as `b''` still gets a data CRC trailer. -/
def buildMstpFrame (frameType destAddr srcAddr : UInt8) : Option (List UInt8) → List UInt8
  | none =>
    let header := [frameType, destAddr, srcAddr, 0x00, 0x00]
    [0x55, 0xFF] ++ header ++ [UInt8.ofNat (crc8Header header)]
  | some data =>
    let header := [frameType, destAddr, srcAddr, hiByte data.length, loByte data.length]
    [0x55, 0xFF] ++ header ++ [UInt8.ofNat (crc8Header header)] ++ data ++
      packLE16 (crc16Data data)

end MstpLink.TestSender

namespace MstpLink.Sniffer

/-- The values of `MstpSniffer.state`. -/
inductive State
  | IDLE
  | PREAMBLE
  | HEADER
  | DATA
  deriving DecidableEq, Repr

/-- The fields of `MstpSniffer` that `process_byte` reads and writes. -/
structure MstpSniffer where
  buffer : List UInt8
  frameCount : Nat
  state : State
  frameType : UInt8
  dstAddr : UInt8
  srcAddr : UInt8
  dataLen : Nat
  headerCrc : UInt8
  data : List UInt8
  dataCrc : Nat
  deriving DecidableEq, Repr

/-- A completed frame: the fields `_complete_frame` passes to `format_frame`, with
`hex_data` as the payload (`None` there when it is empty). -/
structure Completed where
  frameNum : Nat
  frameType : UInt8
  dstAddr : UInt8
  srcAddr : UInt8
  dataLen : Nat
  data : List UInt8
  deriving DecidableEq, Repr

namespace MstpSniffer

/-- `MstpSniffer()`: an empty buffer in state `IDLE`. -/
def init : MstpSniffer := ⟨[], 0, .IDLE, 0, 0, 0, 0, 0, [], 0⟩

/-- `_complete_frame`: count the frame, report its fields, and reset to `IDLE`. -/
def completeFrame (sn : MstpSniffer) : MstpSniffer × Completed :=
  ({ sn with frameCount := sn.frameCount + 1, state := .IDLE, buffer := [], data := [] },
    ⟨sn.frameCount + 1, sn.frameType, sn.dstAddr, sn.srcAddr, sn.dataLen, sn.data⟩)

/-- `process_byte(byte)`: the new sniffer and the completed frame, if this byte ends one.
The data CRC comparison of the `DATA` branch only prints when `verbose` is set. -/
def processByte (sn : MstpSniffer) (byte : UInt8) : MstpSniffer × Option Completed :=
  let sn := { sn with buffer := sn.buffer ++ [byte] }
  match sn.state with
  | .IDLE =>
    if byte = 0x55 then ({ sn with state := .PREAMBLE, buffer := [byte] }, none)
    else ({ sn with buffer := [] }, none)
  | .PREAMBLE =>
    if byte = 0xFF then ({ sn with state := .HEADER }, none)
    else if byte = 0x55 then (sn, none)
    else ({ sn with state := .IDLE, buffer := [] }, none)
  | .HEADER =>
    if sn.buffer.length = 8 then
      let b := sn.buffer
      let sn := { sn with
        frameType := b.getD 2 0, dstAddr := b.getD 3 0, srcAddr := b.getD 4 0,
        dataLen := (b.getD 5 0).toNat <<< 8 ||| (b.getD 6 0).toNat, headerCrc := b.getD 7 0 }
      if crc8 ((b.drop 2).take 5) ≠ sn.headerCrc.toNat then
        ({ sn with state := .IDLE, buffer := [] }, none)
      else if sn.dataLen > 0 then ({ sn with state := .DATA, data := [] }, none)
      else
        let done := sn.completeFrame
        (done.1, some done.2)
    else (sn, none)
  | .DATA =>
    let sn := { sn with data := sn.data ++ [byte] }
    if sn.data.length = sn.dataLen + 2 then
      let k := sn.data.length
      let sn := { sn with
        dataCrc := (sn.data.getD (k - 1) 0).toNat <<< 8 ||| (sn.data.getD (k - 2) 0).toNat,
        data := sn.data.take (k - 2) }
      let done := sn.completeFrame
      (done.1, some done.2)
    else (sn, none)

/-- The main loop's `for byte in data: sniffer.process_byte(byte)`: the sniffer after the
bytes and the frames completed on the way. -/
def feed (sn : MstpSniffer) : List UInt8 → MstpSniffer × List Completed
  | [] => (sn, [])
  | byte :: rest =>
    let step := sn.processByte byte
    let after := step.1.feed rest
    (after.1, step.2.toList ++ after.2)

/-- Feeding two byte sequences one after the other. -/
theorem feed_append (sn : MstpSniffer) (a b : List UInt8) :
    sn.feed (a ++ b) = (((sn.feed a).1.feed b).1, (sn.feed a).2 ++ ((sn.feed a).1.feed b).2) := by
  induction a generalizing sn with
  | nil => rfl
  | cons byte a ih =>
    rw [List.cons_append, feed, feed, ih, List.append_assoc]

/-- In `HEADER` the header is read only when the buffer holds exactly eight bytes; once
it holds eight or more, a byte is only appended. -/
theorem processByte_of_header_overfull {sn : MstpSniffer} (header : sn.state = .HEADER)
    (overfull : 8 ≤ sn.buffer.length) (byte : UInt8) :
    sn.processByte byte = ({ sn with buffer := sn.buffer ++ [byte] }, none) := by
  have unread : (sn.buffer ++ [byte]).length ≠ 8 := by
    rw [List.length_append]
    exact Nat.ne_of_gt (Nat.lt_succ_of_le overfull)
  simp only [processByte, header, unread, if_false]

/-- From an overfull `HEADER` state no byte sequence completes a frame, and the sniffer
never leaves `HEADER`. -/
theorem feed_of_header_overfull {sn : MstpSniffer} (header : sn.state = .HEADER)
    (overfull : 8 ≤ sn.buffer.length) (rest : List UInt8) :
    (sn.feed rest).2 = [] ∧ (sn.feed rest).1.state = .HEADER := by
  induction rest generalizing sn with
  | nil => exact ⟨rfl, header⟩
  | cons byte rest ih =>
    have longer : 8 ≤ (sn.buffer ++ [byte]).length := by
      rw [List.length_append]
      exact Nat.le_succ_of_le overfull
    simpa only [feed, processByte_of_header_overfull header overfull, Option.toList_none,
      List.nil_append] using @ih { sn with buffer := sn.buffer ++ [byte] } header longer

end MstpSniffer

set_option maxRecDepth 4000 in
/-- A frame of the test sender is completed on its own, and lost when one stray `0x55`
comes before it: the stay-in-`PREAMBLE` branch keeps the stray byte in the buffer, so
the header is read one byte late and fails its CRC. -/
theorem sniffer_loses_frame_after_stray_preamble :
    (MstpSniffer.init.feed (TestSender.buildMstpFrame 0 0 0 none)).2 = [⟨1, 0, 0, 0, 0, []⟩] ∧
      (MstpSniffer.init.feed ([0x55] ++ TestSender.buildMstpFrame 0 0 0 none)).2 = [] := by
  decide

/-- A repeated `0x55` keeps the sniffer in `PREAMBLE` with both bytes buffered, and a run
of seven `0x55` before `0xFF` stalls it in `HEADER` for good: the header is read only
when the buffer holds exactly eight bytes, and it already holds eight, so no byte that
follows, zeros and a whole frame included, completes a frame. -/
theorem sniffer_stalls_after_preamble_run (rest : List UInt8) :
    (MstpSniffer.init.feed [0x55, 0x55]).1.state = .PREAMBLE ∧
      (MstpSniffer.init.feed [0x55, 0x55]).1.buffer = [0x55, 0x55] ∧
      (MstpSniffer.init.feed (List.replicate 7 0x55 ++ [0xFF] ++ rest)).2 = [] ∧
      (MstpSniffer.init.feed (List.replicate 7 0x55 ++ [0xFF] ++ rest)).1.state = .HEADER := by
  have entered : MstpSniffer.init.feed (List.replicate 7 0x55 ++ [0xFF]) =
      ({ MstpSniffer.init with
          state := .HEADER, buffer := List.replicate 7 0x55 ++ [0xFF] }, []) := by
    decide
  rw [MstpSniffer.feed_append, entered]
  exact ⟨rfl, rfl, MstpSniffer.feed_of_header_overfull rfl (by decide) rest⟩

end MstpLink.Sniffer
