import MstpLink.Sniffer
import MstpLink.FramerDecode

/-! What the sniffer of `mstp_sniffer.py` reports on the frames of `mstp_test_sender.py`.

A sniffer is ready when it is in `IDLE` with no payload held: so it starts, and so
`_complete_frame` leaves it. Bytes other than `0x55` keep a ready sniffer ready and
report nothing; from a ready sniffer a frame of `build_mstp_frame` is read byte by byte
through `PREAMBLE`, `HEADER` and, for a payload, `DATA`, and reported once with its
fields and the next frame number.

## Main result

`sniffer_decodes_test_sender`: on any stream of test-sender frames separated by gaps
without `0x55`, the sniffer reports exactly those frames, in order, numbered on from
its count. The stray `0x55` of `sniffer_loses_frame_after_stray_preamble` shows that the
condition on the gaps cannot be dropped.

## Proof strategy

One lemma per state of `process_byte` says what a byte does there; the header is read
by a computation over its eight bytes (`feed_header`), the payload by induction over its
bytes (`feed_data`). -/

namespace MstpLink.Sniffer

open TestSender

namespace MstpSniffer

/-- `IDLE` with no payload held, and `n` frames counted. -/
structure Ready (n : Nat) (sn : MstpSniffer) : Prop where
  idle : sn.state = .IDLE
  empty : sn.data = []
  count : sn.frameCount = n

theorem ready_init : Ready 0 init := ⟨rfl, rfl, rfl⟩

/-! ### One byte in each state -/

theorem processByte_of_idle {sn : MstpSniffer} (idle : sn.state = .IDLE) {byte : UInt8}
    (quiet : byte ≠ 0x55) : sn.processByte byte = ({ sn with buffer := [] }, none) := by
  simp only [processByte, idle, quiet, if_false]

theorem processByte_of_header {sn : MstpSniffer} (header : sn.state = .HEADER) {byte : UInt8}
    (short : (sn.buffer ++ [byte]).length ≠ 8) :
    sn.processByte byte = ({ sn with buffer := sn.buffer ++ [byte] }, none) := by
  simp only [processByte, header, short, if_false]

theorem processByte_of_data {sn : MstpSniffer} (data : sn.state = .DATA) {byte : UInt8}
    (more : (sn.data ++ [byte]).length ≠ sn.dataLen + 2) :
    sn.processByte byte = ({ sn with buffer := sn.buffer ++ [byte], data := sn.data ++ [byte] }, none) := by
  simp only [processByte, data, more, if_false]

/-- A ready sniffer stays ready, and reports nothing, on bytes other than `0x55`. -/
theorem feed_gap {n : Nat} {sn : MstpSniffer} (ready : Ready n sn) {gap : List UInt8}
    (quiet : ∀ x ∈ gap, x ≠ 0x55) : (sn.feed gap).2 = [] ∧ Ready n (sn.feed gap).1 := by
  induction gap generalizing sn with
  | nil => exact ⟨rfl, ready⟩
  | cons x gap ih =>
    have step := processByte_of_idle ready.idle (quiet x (List.mem_cons_self _ _))
    rw [feed, step]
    exact ih ⟨ready.idle, ready.empty, ready.count⟩ fun y mem => quiet y (List.mem_cons_of_mem _ mem)

/-- In `DATA`, bytes short of the last one are appended to the payload. -/
theorem feed_data {sn : MstpSniffer} (data : sn.state = .DATA) {bytes : List UInt8}
    (short : sn.data.length + bytes.length < sn.dataLen + 2) :
    sn.feed bytes = ({ sn with buffer := sn.buffer ++ bytes, data := sn.data ++ bytes }, []) := by
  induction bytes generalizing sn with
  | nil => simp [feed]
  | cons x bytes ih =>
    have step := @processByte_of_data sn data x (by simp only [List.length_append, List.length_cons, List.length_nil] at short ⊢; omega)
    rw [feed, step]
    dsimp only
    rw [@ih { sn with buffer := sn.buffer ++ [x], data := sn.data ++ [x] } data
      (by simp only [List.length_append, List.length_cons, List.length_nil] at short ⊢; omega)]
    simp

/-- The preamble takes a ready sniffer to `HEADER`. -/
theorem feed_preamble {n : Nat} {sn : MstpSniffer} (ready : Ready n sn) :
    sn.feed [0x55, 0xFF] = ({ sn with state := .HEADER, buffer := [0x55, 0xFF] }, []) := by
  simp only [feed, processByte, ready.idle, if_true]
  rfl

/-- In `HEADER`, bytes short of the eighth are appended to the buffer. -/
theorem feed_header_short {sn : MstpSniffer} (header : sn.state = .HEADER) {bytes : List UInt8}
    (short : sn.buffer.length + bytes.length < 8) :
    sn.feed bytes = ({ sn with buffer := sn.buffer ++ bytes }, []) := by
  induction bytes generalizing sn with
  | nil => simp [feed]
  | cons x bytes ih =>
    have step := @processByte_of_header sn header x (by simp only [List.length_append, List.length_cons, List.length_nil] at short ⊢; omega)
    rw [feed, step]
    dsimp only
    rw [@ih { sn with buffer := sn.buffer ++ [x] } header (by simp only [List.length_append, List.length_cons, List.length_nil] at short ⊢; omega)]
    simp

/-- The eighth byte in `HEADER`: the header is read, and if its CRC checks, a frame
without payload is completed, and one with a payload goes on to `DATA`. -/
theorem processByte_of_header_full {sn : MstpSniffer} (header : sn.state = .HEADER)
    {t d s hi lo hc : UInt8} (buffer : sn.buffer = [0x55, 0xFF, t, d, s, hi, lo])
    (crc : crc8 [t, d, s, hi, lo] = hc.toNat) :
    sn.processByte hc =
      if (hi.toNat <<< 8 ||| lo.toNat) > 0 then
        ({ sn with buffer := [0x55, 0xFF, t, d, s, hi, lo, hc], state := .DATA,
                   frameType := t, dstAddr := d, srcAddr := s,
                   dataLen := hi.toNat <<< 8 ||| lo.toNat, headerCrc := hc, data := [] }, none)
      else
        ({ sn with buffer := [], frameCount := sn.frameCount + 1, state := .IDLE,
                   frameType := t, dstAddr := d, srcAddr := s,
                   dataLen := hi.toNat <<< 8 ||| lo.toNat, headerCrc := hc, data := [] },
          some ⟨sn.frameCount + 1, t, d, s, hi.toNat <<< 8 ||| lo.toNat, sn.data⟩) := by
  simp only [processByte, header, buffer, List.cons_append, List.nil_append, List.length_cons,
    List.length_nil, List.getD_cons_succ, List.getD_cons_zero, List.drop_succ_cons, List.drop_zero,
    List.take_succ_cons, List.take_zero, crc, ne_eq, not_true_eq_false, if_false, completeFrame]
  split_ifs <;> rfl

/-- The preamble and a header, from a ready sniffer, end where the eighth byte of the
header leaves `HEADER`. -/
theorem feed_header {n : Nat} {sn : MstpSniffer} (ready : Ready n sn) (t d s hi lo hc : UInt8) :
    sn.feed [0x55, 0xFF, t, d, s, hi, lo, hc] =
      let r := ({ sn with state := .HEADER, buffer := [0x55, 0xFF, t, d, s, hi, lo] }).processByte hc
      (r.1, r.2.toList) := by
  rw [show [0x55, 0xFF, t, d, s, hi, lo, hc] = [0x55, 0xFF] ++ [t, d, s, hi, lo] ++ [hc] from rfl,
    feed_append, feed_append, feed_preamble ready]
  dsimp only
  rw [@feed_header_short { sn with state := .HEADER, buffer := [0x55, 0xFF] } rfl [t, d, s, hi, lo]
    (by simp)]
  simp [feed]

/-- The last byte of the payload trailer completes the frame with the payload. -/
theorem processByte_of_data_last {sn : MstpSniffer} (data : sn.state = .DATA) {byte : UInt8}
    (last : (sn.data ++ [byte]).length = sn.dataLen + 2) :
    (sn.processByte byte).2 = some ⟨sn.frameCount + 1, sn.frameType, sn.dstAddr, sn.srcAddr,
      sn.dataLen, (sn.data ++ [byte]).take sn.dataLen⟩ ∧
      Ready (sn.frameCount + 1) (sn.processByte byte).1 := by
  simp only [processByte, data, last, if_true, completeFrame, Nat.add_sub_cancel]
  exact ⟨trivial, rfl, rfl, rfl⟩

/-- A header with a payload, from a ready sniffer, leaves it in `DATA` with the header's
fields and nothing reported. -/
theorem feed_header_data {n : Nat} {sn : MstpSniffer} (ready : Ready n sn) {t d s hi lo hc : UInt8}
    (crc : crc8 [t, d, s, hi, lo] = hc.toNat) (positive : 0 < hi.toNat <<< 8 ||| lo.toNat) :
    ∃ sn', sn.feed [0x55, 0xFF, t, d, s, hi, lo, hc] = (sn', []) ∧ sn'.state = .DATA ∧
      sn'.data = [] ∧ sn'.frameCount = n ∧ sn'.frameType = t ∧ sn'.dstAddr = d ∧ sn'.srcAddr = s ∧
      sn'.dataLen = hi.toNat <<< 8 ||| lo.toNat := by
  rw [feed_header ready]
  dsimp only
  rw [@processByte_of_header_full { sn with state := .HEADER, buffer := [0x55, 0xFF, t, d, s, hi, lo] }
    rfl t d s hi lo hc rfl crc, if_pos positive]
  exact ⟨_, rfl, rfl, rfl, ready.count, rfl, rfl, rfl, rfl⟩

/-- A header without payload, from a ready sniffer, is reported at once. -/
theorem feed_header_done {n : Nat} {sn : MstpSniffer} (ready : Ready n sn) {t d s hi lo hc : UInt8}
    (crc : crc8 [t, d, s, hi, lo] = hc.toNat) (zero : (hi.toNat <<< 8 ||| lo.toNat) = 0) :
    (sn.feed [0x55, 0xFF, t, d, s, hi, lo, hc]).2 = [⟨n + 1, t, d, s, 0, []⟩] ∧
      Ready (n + 1) (sn.feed [0x55, 0xFF, t, d, s, hi, lo, hc]).1 := by
  rw [feed_header ready]
  dsimp only
  rw [@processByte_of_header_full { sn with state := .HEADER, buffer := [0x55, 0xFF, t, d, s, hi, lo] }
    rfl t d s hi lo hc rfl crc, if_neg (by omega)]
  simp only [Option.toList_some, zero, ready.count, ready.empty]
  exact ⟨by simp, rfl, rfl, rfl⟩

/-- In `DATA` with nothing held, a payload of `data_len` bytes and its two trailer bytes
are reported as one frame, and the sniffer is ready again. -/
theorem feed_payload {sn : MstpSniffer} (data : sn.state = .DATA) (empty : sn.data = [])
    {payload : List UInt8} (length : payload.length = sn.dataLen) (c1 c2 : UInt8) :
    (sn.feed (payload ++ [c1, c2])).2 =
        [⟨sn.frameCount + 1, sn.frameType, sn.dstAddr, sn.srcAddr, sn.dataLen, payload⟩] ∧
      Ready (sn.frameCount + 1) (sn.feed (payload ++ [c1, c2])).1 := by
  have last := @processByte_of_data_last
    { sn with buffer := sn.buffer ++ (payload ++ [c1]), data := sn.data ++ (payload ++ [c1]) } data c2
    (by simp [empty, length])
  rw [show payload ++ [c1, c2] = payload ++ [c1] ++ [c2] by simp, feed_append,
    feed_data data (by simp [empty, length])]
  simp only [feed, List.append_nil, empty, List.nil_append] at last ⊢
  rw [last.1, List.append_assoc, List.take_left' length]
  exact ⟨rfl, last.2⟩

/-- The header CRC byte of the test sender passes the sniffer's check. -/
theorem crc8_eq_headerCrc (header : List UInt8) :
    crc8 header = (UInt8.ofNat (crc8Header header)).toNat := by
  rw [toNat_ofNat_of_lt_256 (v := crc8Header header) (notMask_lt 8 _), crc8Header_eq_sniffer_crc8]

/-- A ready sniffer reads a frame of `build_mstp_frame` with at most 65535 payload bytes
whole: one report with the frame's fields and the next number, and ready again. An
empty payload given as `b''` is reported at its header, and its trailer `00 00` is idle. -/
theorem feed_buildMstpFrame {n : Nat} {sn : MstpSniffer} (ready : Ready n sn) (t d s : UInt8)
    (data : Option (List UInt8)) (fits : (data.getD []).length ≤ 65535) :
    (sn.feed (buildMstpFrame t d s data)).2 =
        [⟨n + 1, t, d, s, (data.getD []).length, data.getD []⟩] ∧
      Ready (n + 1) (sn.feed (buildMstpFrame t d s data)).1 := by
  rcases data with _ | _ | ⟨x, xs⟩
  · exact feed_header_done ready (crc8_eq_headerCrc _) rfl
  · have trailer : packLE16 (crc16Data []) = [0, 0] := by decide
    obtain ⟨out, header⟩ := feed_header_done ready (t := t) (crc8_eq_headerCrc [t, d, s, hiByte 0, loByte 0])
      (by decide)
    obtain ⟨idle, gap⟩ := @feed_gap _ _ header [0, 0] (by decide)
    rw [show buildMstpFrame t d s (some []) =
        [0x55, 0xFF, t, d, s, hiByte 0, loByte 0, UInt8.ofNat (crc8Header [t, d, s, hiByte 0, loByte 0])] ++
          packLE16 (crc16Data []) from rfl, trailer, feed_append]
    exact ⟨by rw [out, idle]; rfl, gap⟩
  · simp only [Option.getD_some] at fits ⊢
    have length := hiByte_lor_loByte (v := (x :: xs).length) (by omega)
    obtain ⟨sn', header, data, empty, count, frameType, dstAddr, srcAddr, dataLen⟩ :=
      feed_header_data ready (crc8_eq_headerCrc _) (by rw [length]; simp)
    have payload := @feed_payload sn' data empty (x :: xs) (by rw [dataLen, length])
      (loByte (crc16Data (x :: xs))) (hiByte (crc16Data (x :: xs)))
    rw [count, frameType, dstAddr, srcAddr, dataLen, length] at payload
    rw [show buildMstpFrame t d s (some (x :: xs)) =
        [0x55, 0xFF, t, d, s, hiByte (x :: xs).length, loByte (x :: xs).length,
          UInt8.ofNat (crc8Header [t, d, s, hiByte (x :: xs).length, loByte (x :: xs).length])] ++
          (x :: xs ++ [loByte (crc16Data (x :: xs)), hiByte (crc16Data (x :: xs))]) from rfl,
      feed_append, header]
    exact payload

end MstpSniffer

/-- A stream of the test sender: the gap `g`, then each frame, as the arguments of its
`build_mstp_frame` call, followed by its own gap. -/
def session : List UInt8 → List (Simulator.FrameArgs × List UInt8) → List UInt8
  | g, [] => g
  | g, (f, g') :: rest => g ++ buildMstpFrame f.frameType f.dest f.src f.data ++ session g' rest

/-- The reports `_complete_frame` should make for `frames`, numbered on from `n`. -/
def reports (n : Nat) : List Simulator.FrameArgs → List Completed
  | [] => []
  | f :: rest => ⟨n + 1, f.frameType, f.dest, f.src, (f.data.getD []).length, f.data.getD []⟩ ::
    reports (n + 1) rest

/-- No gap of the stream holds `0x55`. -/
def QuietGaps (g : List UInt8) (frames : List (Simulator.FrameArgs × List UInt8)) : Prop :=
  (∀ x ∈ g, x ≠ 0x55) ∧ ∀ p ∈ frames, ∀ x ∈ p.2, x ≠ 0x55

namespace MstpSniffer

/-- From a ready sniffer, a stream of test-sender frames separated by quiet gaps is
reported frame by frame, and the sniffer ends ready. -/
theorem feed_session {n : Nat} {sn : MstpSniffer} (ready : Ready n sn) (g : List UInt8)
    (frames : List (Simulator.FrameArgs × List UInt8))
    (fits : ∀ p ∈ frames, (p.1.data.getD []).length ≤ 65535) (quiet : QuietGaps g frames) :
    (sn.feed (session g frames)).2 = reports n (frames.map Prod.fst) ∧
      Ready (n + frames.length) (sn.feed (session g frames)).1 := by
  induction frames generalizing n sn g with
  | nil => exact feed_gap ready quiet.1
  | cons p rest ih =>
    obtain ⟨f, g'⟩ := p
    obtain ⟨idle, gap⟩ := feed_gap ready quiet.1
    obtain ⟨out, framed⟩ := feed_buildMstpFrame gap f.frameType f.dest f.src f.data
      (fits _ (List.mem_cons_self _ _))
    obtain ⟨more, done⟩ := ih framed g' (fun q mem => fits q (List.mem_cons_of_mem _ mem))
      ⟨quiet.2 _ (List.mem_cons_self _ _), fun q mem => quiet.2 q (List.mem_cons_of_mem _ mem)⟩
    rw [session, feed_append, feed_append]
    refine ⟨?_, by simpa [Nat.add_assoc, Nat.add_comm 1] using done⟩
    rw [idle, out, more]
    rfl

end MstpSniffer

/-- Fed a stream of frames of `build_mstp_frame`, each with at most 65535 payload bytes,
separated by gaps without `0x55`, a new sniffer reports exactly those frames, in order,
numbered 1, 2, ..., with their type, addresses, length and payload. -/
theorem sniffer_decodes_test_sender (g : List UInt8) (frames : List (Simulator.FrameArgs × List UInt8))
    (fits : ∀ p ∈ frames, (p.1.data.getD []).length ≤ 65535) (quiet : QuietGaps g frames) :
    (MstpSniffer.init.feed (session g frames)).2 = reports 0 (frames.map Prod.fst) :=
  (MstpSniffer.feed_session MstpSniffer.ready_init g frames fits quiet).1

/-- Two zero bytes, a Poll-For-Master from 1 to 3, a gap of `FF`, and a data frame with
the payload `55 55`. -/
theorem sniffer_decodes_poll_and_data :
    (∀ p ∈ [((⟨1, 3, 1, none⟩ : Simulator.FrameArgs), ([0xFF] : List UInt8)),
        (⟨5, 3, 1, some [0x55, 0x55]⟩, [])], (p.1.data.getD []).length ≤ 65535) ∧
      QuietGaps [0, 0] [(⟨1, 3, 1, none⟩, [0xFF]), (⟨5, 3, 1, some [0x55, 0x55]⟩, [])] ∧
      (MstpSniffer.init.feed
          (session [0, 0] [(⟨1, 3, 1, none⟩, [0xFF]), (⟨5, 3, 1, some [0x55, 0x55]⟩, [])])).2 =
        reports 0 ([(⟨1, 3, 1, none⟩, [0xFF]), (⟨5, 3, 1, some [0x55, 0x55]⟩, [])].map Prod.fst) := by
  have fits : ∀ p ∈ [((⟨1, 3, 1, none⟩ : Simulator.FrameArgs), ([0xFF] : List UInt8)),
      (⟨5, 3, 1, some [0x55, 0x55]⟩, [])], (p.1.data.getD []).length ≤ 65535 := by simp
  have quiet : QuietGaps [0, 0] [(⟨1, 3, 1, none⟩, [0xFF]), (⟨5, 3, 1, some [0x55, 0x55]⟩, [])] := by
    simp [QuietGaps]
  exact ⟨fits, quiet, sniffer_decodes_test_sender _ _ fits quiet⟩

example : reports 0 [⟨1, 3, 1, none⟩, ⟨5, 3, 1, some [0x55, 0x55]⟩] =
    [⟨1, 1, 3, 1, 0, []⟩, ⟨2, 5, 3, 1, 2, [0x55, 0x55]⟩] := rfl

end MstpLink.Sniffer
