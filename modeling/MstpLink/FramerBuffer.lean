import MstpLink.FramerDecode

/-! What one call of `MstpSimulator.parse_frame` leaves in `rx_buffer`, and where the
run loop's drain stops.

## Main results

`parseFrame_eq_self_iff`: a call returns `None` without changing the buffer exactly
when the buffer is shorter than 8 bytes or holds a preamble, a header whose CRC checks,
and fewer bytes than the frame that header announces (`WaitsForFrame`). Every other
call shortens the buffer (`parseFrame_progress`), so draining stops after at most as
many calls as the buffer has bytes (`drain_spec`), and what it leaves is shorter than
the largest frame (`length_lt_of_fixpoint`).

`parseFrame_of_data_crc_error`: when the data CRC of a complete, header-valid frame
fails, the call removes the two preamble bytes only, so the payload is scanned again
for frames.

## Proof strategy

`parseAt_eq_self_iff` reads the fixpoints off the branches of `parseAt`; a preamble
found after the first byte, or none at all, always moves the buffer. The drain is
followed through `drain.induct`, one call per step. -/

namespace MstpLink.Simulator

/-- The buffer `parse_frame` waits on: `0x55 0xFF`, a header whose `crc8_header`
checks, and fewer than `8 + (n + 2 if n > 0 else 0)` bytes for its length field `n`. -/
def WaitsForFrame : List UInt8 → Prop
  | rx@(p1 :: p2 :: frameType :: dest :: src :: lenHi :: lenLo :: headerCrc :: _) =>
    p1 = 0x55 ∧ p2 = 0xFF ∧ crc8Header [frameType, dest, src, lenHi, lenLo] = headerCrc.toNat ∧
      rx.length < 8 + if (lenHi.toNat <<< 8 ||| lenLo.toNat) > 0 then
        (lenHi.toNat <<< 8 ||| lenLo.toNat) + 2 else 0
  | _ => False

instance : DecidablePred WaitsForFrame := fun rx => by
  unfold WaitsForFrame
  split <;> infer_instance

/-! ### One call -/

/-- The length field of a header is a 16-bit value. -/
theorem lengthField_lt (lenHi lenLo : UInt8) : lenHi.toNat <<< 8 ||| lenLo.toNat < 2 ^ 16 := by
  have high := byte_toNat_lt lenHi
  have low := byte_toNat_lt lenLo
  refine Nat.or_lt_two_pow ?_ (Nat.lt_of_lt_of_le low (by decide))
  rw [Nat.shiftLeft_eq]
  omega

theorem findPreamble_preamble (rest : List UInt8) :
    findPreamble (0x55 :: 0xFF :: rest) = some 0 := rfl

/-- `parseAt` leaves the buffer unchanged exactly when the header checks, announces a
payload, and the payload and its trailer are not all there yet. -/
theorem parseAt_eq_self_iff {p1 p2 frameType dest src lenHi lenLo headerCrc : UInt8}
    {body : List UInt8} :
    parseAt (p1 :: p2 :: frameType :: dest :: src :: lenHi :: lenLo :: headerCrc :: body) =
        (none, p1 :: p2 :: frameType :: dest :: src :: lenHi :: lenLo :: headerCrc :: body) ↔
      crc8Header [frameType, dest, src, lenHi, lenLo] = headerCrc.toNat ∧
        0 < (lenHi.toNat <<< 8 ||| lenLo.toNat) ∧
        body.length < (lenHi.toNat <<< 8 ||| lenLo.toNat) + 2 := by
  simp only [parseAt]
  split_ifs with header nonempty waiting trailer
  · exact iff_of_false (fun same => by simpa using congrArg (fun r => r.2.length) same)
      fun ok => header ok.1
  · exact iff_of_true rfl ⟨not_not.mp header, nonempty, waiting⟩
  · exact iff_of_false (fun same => by simpa using congrArg (fun r => r.2.length) same)
      fun ok => waiting ok.2.2
  · exact iff_of_false (fun same => by simp at same) fun ok => waiting ok.2.2
  · exact iff_of_false (fun same => by simp at same) fun ok => nonempty ok.2.1

/-- The data-CRC-error branch: a header that checks, announcing `n > 0` bytes that are
all present, and a trailer that is not their CRC-16. The call returns `None` and drops
the preamble only. -/
theorem parseFrame_of_data_crc_error {frameType dest src lenHi lenLo headerCrc : UInt8}
    {body : List UInt8} {n : Nat} (length : lenHi.toNat <<< 8 ||| lenLo.toNat = n)
    (headerOk : crc8Header [frameType, dest, src, lenHi, lenLo] = headerCrc.toNat)
    (nonempty : 0 < n) (complete : n + 2 ≤ body.length)
    (badTrailer : (body.getD n 0).toNat ||| (body.getD (n + 1) 0).toNat <<< 8 ≠
      crc16Data (body.take n)) :
    parseFrame (0x55 :: 0xFF :: frameType :: dest :: src :: lenHi :: lenLo :: headerCrc :: body) =
      (none, frameType :: dest :: src :: lenHi :: lenLo :: headerCrc :: body) := by
  rw [parseFrame_of_some (by simp) (findPreamble_preamble _), List.drop_zero]
  simp only [parseAt, headerOk, length, ne_eq, not_true_eq_false, if_false, if_pos nonempty,
    if_neg (Nat.not_lt.mpr complete), badTrailer, not_false_eq_true, if_true]
  rfl

set_option maxRecDepth 4000 in
/-- A header-valid frame whose 8-byte payload is itself a whole Token frame, sent with
the trailer `00 00` in place of its CRC-16 `0xD408`: `parse_frame` drops two bytes, and
draining then returns the Token frame from inside the payload. -/
theorem parseFrame_rescans_payload_after_data_crc_error :
    parseFrame ([0x55, 0xFF, 0x05, 0x01, 0x02, 0x00, 0x08, 0x21] ++
        buildFrame 0x00 0x01 0x02 none ++ [0x00, 0x00]) =
      (none, [0x05, 0x01, 0x02, 0x00, 0x08, 0x21] ++ buildFrame 0x00 0x01 0x02 none ++
        [0x00, 0x00]) ∧
    (drain ([0x55, 0xFF, 0x05, 0x01, 0x02, 0x00, 0x08, 0x21] ++
        buildFrame 0x00 0x01 0x02 none ++ [0x00, 0x00])).1 = [⟨0x00, 0x01, 0x02, none⟩] := by
  have first : parseFrame ([0x55, 0xFF, 0x05, 0x01, 0x02, 0x00, 0x08, 0x21] ++
      buildFrame 0x00 0x01 0x02 none ++ [0x00, 0x00]) =
      (none, [0x05, 0x01, 0x02, 0x00, 0x08, 0x21] ++ buildFrame 0x00 0x01 0x02 none ++
        [0x00, 0x00]) :=
    parseFrame_of_data_crc_error (n := 8) (by decide) (by decide) (by decide) (by decide)
      (by decide)
  have inner : parseFrame ([0x05, 0x01, 0x02, 0x00, 0x08, 0x21] ++
      buildFrame 0x00 0x01 0x02 none ++ [0x00, 0x00]) = (some ⟨0x00, 0x01, 0x02, none⟩, [0, 0]) := by
    decide
  refine ⟨first, ?_⟩
  rw [drain_frames, first, drain_frames, inner, drain_of_length_lt (by decide)]
  rfl

/-! ### Fixpoints of a call -/

theorem length_parseAt_le (u : List UInt8) : (parseAt u).2.length ≤ u.length := by
  rcases parseAt_progress u with wait | shorter
  · rw [wait]
  · exact Nat.le_of_lt shorter

/-- `WaitsForFrame` on eight or more bytes, with its length test in the form `parseAt`
makes it: a payload is announced and it or its trailer is still missing. -/
theorem waitsForFrame_cons {p1 p2 frameType dest src lenHi lenLo headerCrc : UInt8}
    {body : List UInt8} :
    WaitsForFrame (p1 :: p2 :: frameType :: dest :: src :: lenHi :: lenLo :: headerCrc :: body) ↔
      p1 = 0x55 ∧ p2 = 0xFF ∧ crc8Header [frameType, dest, src, lenHi, lenLo] = headerCrc.toNat ∧
        0 < (lenHi.toNat <<< 8 ||| lenLo.toNat) ∧
        body.length < (lenHi.toNat <<< 8 ||| lenLo.toNat) + 2 := by
  simp only [WaitsForFrame, List.length_cons]
  refine and_congr_right fun _ => and_congr_right fun _ => and_congr_right fun _ => ?_
  split_ifs with nonempty <;> omega

/-- `parse_frame` returns `None` and leaves `rx_buffer` as it is exactly when the buffer
is shorter than 8 bytes or waits for the rest of a frame whose header checks. -/
theorem parseFrame_eq_self_iff (b : List UInt8) :
    parseFrame b = (none, b) ↔ b.length < 8 ∨ WaitsForFrame b := by
  constructor
  · intro fixpoint
    by_cases short : b.length < 8
    · exact .inl short
    right
    cases found : findPreamble b with
    | none =>
      have kept := congrArg (fun r => r.2.length) fixpoint
      simp only [parseFrame_of_none (by omega) found, List.length_drop] at kept
      omega
    | some pos =>
      rw [parseFrame_of_some (by omega) found] at fixpoint
      have kept : b.length ≤ b.length - pos := by
        simpa only [fixpoint, List.length_drop] using length_parseAt_le (b.drop pos)
      have start : pos = 0 := by have := findPreamble_lt found; omega
      subst start
      obtain ⟨rest, preamble⟩ := findPreamble_spec found
      rw [List.drop_zero] at preamble fixpoint
      subst preamble
      rcases rest with _ | ⟨t, _ | ⟨d, _ | ⟨s, _ | ⟨hi, _ | ⟨lo, _ | ⟨hc, body⟩⟩⟩⟩⟩⟩ <;>
        simp only [List.length_cons, List.length_nil] at short
      all_goals try omega
      exact waitsForFrame_cons.mpr ⟨rfl, rfl, parseAt_eq_self_iff.mp fixpoint⟩
  · rintro (short | waits)
    · simp [parseFrame, short]
    rcases b with _ | ⟨p1, _ | ⟨p2, _ | ⟨t, _ | ⟨d, _ | ⟨s, _ | ⟨hi, _ | ⟨lo, _ | ⟨hc, body⟩⟩⟩⟩⟩⟩⟩⟩ <;>
      simp only [WaitsForFrame] at waits
    obtain ⟨rfl, rfl, waiting⟩ := waitsForFrame_cons.mp waits
    rw [parseFrame_of_some (by simp) (findPreamble_preamble _), List.drop_zero]
    exact parseAt_eq_self_iff.mpr waiting

/-- What `parse_frame` waits on is shorter than the largest frame, 8 + 65535 + 2 bytes. -/
theorem length_lt_of_fixpoint {b : List UInt8} (fixpoint : parseFrame b = (none, b)) :
    b.length < 65545 := by
  rcases (parseFrame_eq_self_iff b).mp fixpoint with short | waits
  · omega
  rcases b with _ | ⟨p1, _ | ⟨p2, _ | ⟨t, _ | ⟨d, _ | ⟨s, _ | ⟨hi, _ | ⟨lo, _ | ⟨hc, body⟩⟩⟩⟩⟩⟩⟩⟩ <;>
    simp only [WaitsForFrame] at waits
  have field := lengthField_lt hi lo
  have waiting := (waitsForFrame_cons.mp waits).2.2.2.2
  simp only [List.length_cons]
  omega

/-! ### The drain loop -/

/-- `drain` calls `parse_frame` `k ≤ len(rx_buffer)` times, each call but the last
changing the buffer, and stops at the first fixpoint. -/
theorem drain_spec (b : List UInt8) :
    ∃ k ≤ b.length, (drain b).2 = (fun rx => (parseFrame rx).2)^[k] b ∧
      (∀ j < k, parseFrame ((fun rx => (parseFrame rx).2)^[j] b) ≠
        (none, (fun rx => (parseFrame rx).2)^[j] b)) ∧
      parseFrame (drain b).2 = (none, (drain b).2) := by
  induction b using drain.induct with
  | case1 b fixpoint =>
    rw [drain_of_fixpoint fixpoint]
    exact ⟨0, Nat.zero_le _, rfl, fun j below => absurd below (Nat.not_lt_zero j), fixpoint⟩
  | case2 b moved ih =>
    obtain ⟨k, bound, left, changing, stops⟩ := ih
    have shorter := (parseFrame_progress b).resolve_left moved
    refine ⟨k + 1, by omega, ?_, fun j below => ?_, ?_⟩
    · rw [drain_of_moved moved, Function.iterate_succ_apply]
      exact left
    · cases j with
      | zero => exact moved
      | succ j =>
        rw [Function.iterate_succ_apply]
        exact changing j (by omega)
    · rw [drain_of_moved moved]
      exact stops

/-- Each call of `parse_frame` shortens `rx_buffer`, or returns `None` and leaves it as it
is; the latter exactly on a buffer shorter than 8 bytes or one that waits for the rest
of a frame whose header checks. Repeated calls reach such a buffer after at most
`len(rx_buffer)` buffer-changing calls, the drain of the run loop stops there, and every
such buffer is shorter than 65545 bytes. -/
theorem parseFrame_drain_reaches_short_fixpoint (b : List UInt8) :
    (parseFrame b = (none, b) ∨ (parseFrame b).2.length < b.length) ∧
      (parseFrame b = (none, b) ↔ b.length < 8 ∨ WaitsForFrame b) ∧
      (∃ k ≤ b.length,
        (∀ j < k, parseFrame ((fun rx => (parseFrame rx).2)^[j] b) ≠
          (none, (fun rx => (parseFrame rx).2)^[j] b)) ∧
        parseFrame ((fun rx => (parseFrame rx).2)^[k] b) =
          (none, (fun rx => (parseFrame rx).2)^[k] b) ∧
        (drain b).2 = (fun rx => (parseFrame rx).2)^[k] b) ∧
      (parseFrame b = (none, b) → b.length < 65545) := by
  obtain ⟨k, bound, left, changing, stops⟩ := drain_spec b
  refine ⟨parseFrame_progress b, parseFrame_eq_self_iff b, ⟨k, bound, changing, ?_, left⟩,
    length_lt_of_fixpoint⟩
  rw [← left]
  exact stops

end MstpLink.Simulator
