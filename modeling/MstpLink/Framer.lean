import MstpLink.Crc

/-! The receive path of the simulator: `build_frame` and `MstpSimulator.parse_frame`.

`parse_frame` reads and rewrites `self.rx_buffer` only, so it is modelled as a
function from the buffer to the returned frame and the new buffer. The run loop
calls it until it returns `None` without changing the buffer (`drain`), after each
chunk of bytes appended to the buffer (`runChunks`). Every call leaves a suffix of
the buffer, and a call that changes the buffer shortens it, which is the
termination measure of `drain`. -/

namespace MstpLink.Simulator

/-- A frame `(frame_type, dest, src, data)` as `parse_frame` returns it; `data` is
`None` when the length field is zero. -/
structure Frame where
  frameType : UInt8
  dest : UInt8
  src : UInt8
  data : Option (List UInt8)
  deriving DecidableEq, Repr

/-- `build_frame(frame_type, dest, src, data)`: preamble, header, header CRC, and for a
non-empty payload the payload and its CRC-16 low byte first. -/
def buildFrame (frameType dest src : UInt8) : Option (List UInt8) → List UInt8
  | some data@(_ :: _) =>
    let header := [frameType, dest, src, hiByte data.length, loByte data.length]
    [0x55, 0xFF] ++ header ++ [UInt8.ofNat (crc8Header header)] ++ data ++
      packLE16 (crc16Data data)
  | _ =>
    let header := [frameType, dest, src, 0x00, 0x00]
    [0x55, 0xFF] ++ header ++ [UInt8.ofNat (crc8Header header)]

/-- The preamble search of `parse_frame`: the first `i` with `rx_buffer[i] == 0x55` and
`rx_buffer[i+1] == 0xFF`. -/
def findPreamble : List UInt8 → Option Nat
  | [] => none
  | b :: rest =>
    if b = 0x55 ∧ rest.head? = some 0xFF then some 0 else (findPreamble rest).map (· + 1)

/-- `parse_frame` from the header check on, with `rx_buffer` starting at the preamble. -/
def parseAt : List UInt8 → Option Frame × List UInt8
  | buf@(_ :: _ :: frameType :: dest :: src :: lenHi :: lenLo :: headerCrc :: body) =>
    if crc8Header [frameType, dest, src, lenHi, lenLo] ≠ headerCrc.toNat then
      (none, buf.drop 2)
    else
      let dataLen := lenHi.toNat <<< 8 ||| lenLo.toNat
      if dataLen > 0 then
        if body.length < dataLen + 2 then (none, buf)
        else
          let data := body.take dataLen
          if (body.getD dataLen 0).toNat ||| (body.getD (dataLen + 1) 0).toNat <<< 8 ≠
              crc16Data data then (none, buf.drop 2)
          else (some ⟨frameType, dest, src, some data⟩, body.drop (dataLen + 2))
      else (some ⟨frameType, dest, src, none⟩, body)
  | buf => (none, buf)

/-- `MstpSimulator.parse_frame` on `rx_buffer`: the frame it returns, if any, and the
buffer it leaves. -/
def parseFrame (rxBuffer : List UInt8) : Option Frame × List UInt8 :=
  if rxBuffer.length < 8 then (none, rxBuffer)
  else
    match findPreamble rxBuffer with
    | none =>
      (none, if rxBuffer.length > 1 then rxBuffer.drop (rxBuffer.length - 1) else rxBuffer)
    | some pos => parseAt (rxBuffer.drop pos)

theorem findPreamble_lt {b : List UInt8} {pos : Nat} (found : findPreamble b = some pos) :
    pos < b.length := by
  induction b generalizing pos with
  | nil => simp [findPreamble] at found
  | cons x rest ih =>
    simp only [findPreamble] at found
    split at found
    · cases found; simp
    · obtain ⟨q, hq, rfl⟩ := Option.map_eq_some'.mp found
      simpa using ih hq

/-- A call of `parseAt` either waits, returning `None` with the buffer untouched, or
shortens the buffer. -/
theorem parseAt_progress (u : List UInt8) :
    parseAt u = (none, u) ∨ (parseAt u).2.length < u.length := by
  unfold parseAt
  split
  · simp only [List.length_cons, List.length_drop]
    split_ifs <;> simp <;> omega
  · exact .inl rfl

theorem parseFrame_progress (b : List UInt8) :
    parseFrame b = (none, b) ∨ (parseFrame b).2.length < b.length := by
  unfold parseFrame
  split
  · exact .inl rfl
  · split
    · right; rw [if_pos (by omega)]; simp; omega
    · next pos found =>
      rcases parseAt_progress (b.drop pos) with wait | shorter
      · rw [wait]
        rcases Nat.eq_zero_or_pos pos with rfl | moved
        · exact .inl (by simp)
        · right; simp; have := findPreamble_lt found; omega
      · right; simp only [List.length_drop] at shorter; omega

/-- `parse_frame` called until it returns `None` without changing `rx_buffer`: the
frames returned, and the buffer left. -/
def drain (rxBuffer : List UInt8) : List Frame × List UInt8 :=
  if parseFrame rxBuffer = (none, rxBuffer) then ([], rxBuffer)
  else
    let rest := drain (parseFrame rxBuffer).2
    ((parseFrame rxBuffer).1.toList ++ rest.1, rest.2)
termination_by rxBuffer.length
decreasing_by exact (parseFrame_progress rxBuffer).resolve_left ‹_›

/-- Append each chunk to `rx_buffer` and drain it; the frames returned, in order. -/
def runChunks (rxBuffer : List UInt8) : List (List UInt8) → List Frame
  | [] => []
  | chunk :: rest =>
    let drained := drain (rxBuffer ++ chunk)
    drained.1 ++ runChunks drained.2 rest

theorem drain_of_fixpoint {b : List UInt8} (fixpoint : parseFrame b = (none, b)) :
    drain b = ([], b) := by
  rw [drain, if_pos fixpoint]

theorem drain_of_moved {b : List UInt8} (moved : parseFrame b ≠ (none, b)) :
    drain b = ((parseFrame b).1.toList ++ (drain (parseFrame b).2).1,
      (drain (parseFrame b).2).2) := by
  rw [drain, if_neg moved]

/-- The frames of a drain are those of its first call and those of the drain after it. -/
theorem drain_frames (b : List UInt8) :
    (drain b).1 = (parseFrame b).1.toList ++ (drain (parseFrame b).2).1 := by
  by_cases fixpoint : parseFrame b = (none, b)
  · rw [fixpoint, drain_of_fixpoint fixpoint]; rfl
  · rw [drain_of_moved fixpoint]

theorem drain_of_length_lt {b : List UInt8} (short : b.length < 8) : drain b = ([], b) :=
  drain_of_fixpoint (by simp [parseFrame, short])

end MstpLink.Simulator
