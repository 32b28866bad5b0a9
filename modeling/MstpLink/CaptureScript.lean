import MstpLink.FramerDecode

/-! The capture loop of `scripts/mstp_capture.py`.

Unlike the simulator, the script checks no CRC: it syncs on `0x55 0xFF`, reads the
length field, and counts a frame once its `frame_size` bytes are all in `buf`, then
removes them. Each frame counted prints one line, chosen by an `elif` chain on the
frame type, and three of those branches also count traffic with station 3.

## Main results

* `capture_counts_clean_stream`: on a stream of `build_frame` frames with no other
  bytes, however it is split across reads, the loop ends with the counters and lines
  of counting the frames one by one, and with an empty buffer.
* `capture_loses_frame_split_after_preamble`: behind at least seven bytes without
  `0x55`, a frame without payload whose first read ends right after its `0x55` is never
  counted, although read whole it is: the lone `0x55` at the end of the buffer fails
  the `len(buf) < 2` test and is dropped before its `0xFF` arrives.

## Proof strategy

A pass on a buffer that starts with a frame counts it and goes on (`pass_frame`); a pass
on the start of a frame of eight bytes or more waits (`pass_partial`). Draining a buffer
that is whole frames followed by part of one counts the whole frames (`drain_prefix`).
The invariant over the reads is that the buffer followed by the reads still to come is
the bytes of the frames not yet counted. The timestamps, and the 15 second limit on the
reads, are not modelled. -/

namespace MstpLink.CaptureScript

open Simulator

/-- A line printed for a counted frame, without its timestamp. -/
inductive Shown
  | pfmTo3 (src : UInt8) (count : Nat)
  | replyFrom3 (dest : UInt8) (count : Nat)
  | tokenTo3 (src : UInt8) (count : Nat)
  | token (src dest : UInt8)
  | pfm (src dest : UInt8)
  | data (ftype src dest : UInt8) (dataLen : Nat)
  deriving DecidableEq, Repr

/-- The variables of `main`, and the lines printed so far. -/
structure Capture where
  buf : List UInt8
  frameCount : Nat
  pfmTo3 : Nat
  replyFrom3 : Nat
  tokenTo3 : Nat
  shown : List Shown
  deriving DecidableEq, Repr

namespace Capture

/-- The variables before the first read. -/
def init : Capture := ⟨[], 0, 0, 0, 0, []⟩

/-- `frame_size = 8 if data_len == 0 else 8 + data_len + 2`. -/
def frameSize (dataLen : Nat) : Nat := if dataLen = 0 then 8 else 8 + dataLen + 2

/-- Count a complete frame with header fields `ftype`, `dest`, `src` and `data_len`, and
print its line: the `elif` chain of the loop. -/
def count (c : Capture) (ftype dest src : UInt8) (dataLen : Nat) : Capture :=
  let c := { c with frameCount := c.frameCount + 1 }
  if ftype = 1 ∧ dest = 3 then
    { c with pfmTo3 := c.pfmTo3 + 1, shown := c.shown ++ [.pfmTo3 src (c.pfmTo3 + 1)] }
  else if ftype = 2 ∧ src = 3 then
    { c with replyFrom3 := c.replyFrom3 + 1,
             shown := c.shown ++ [.replyFrom3 dest (c.replyFrom3 + 1)] }
  else if ftype = 0 ∧ dest = 3 then
    { c with tokenTo3 := c.tokenTo3 + 1, shown := c.shown ++ [.tokenTo3 src (c.tokenTo3 + 1)] }
  else if ftype = 0 then { c with shown := c.shown ++ [.token src dest] }
  else if ftype = 1 then { c with shown := c.shown ++ [.pfm src dest] }
  else if ftype ≥ 5 then { c with shown := c.shown ++ [.data ftype src dest dataLen] }
  else c

/-- One pass of the body of `while len(buf) >= 8`: the variables after it, and whether
the loop goes on (`continue`, or a frame counted) or stops (`break`). -/
def pass (c : Capture) : Capture × Bool :=
  match c.buf.findIdx? (· == 0x55) with
  | none => ({ c with buf := [] }, true)
  | some idx =>
    let buf := c.buf.drop idx
    if buf.length < 2 ∨ buf.getD 1 0 ≠ 0xFF then ({ c with buf := buf.drop 1 }, true)
    else if buf.length < 8 then ({ c with buf := buf }, false)
    else
      let dataLen := (buf.getD 5 0).toNat <<< 8 ||| (buf.getD 6 0).toNat
      if buf.length < frameSize dataLen then ({ c with buf := buf }, false)
      else
        ({ c.count (buf.getD 2 0) (buf.getD 3 0) (buf.getD 4 0) dataLen with
            buf := buf.drop (frameSize dataLen) }, true)

theorem findIdx?_lt {buf : List UInt8} {idx : Nat} (found : buf.findIdx? (· == 0x55) = some idx) :
    idx < buf.length :=
  List.findIdx?_eq_some_iff_findIdx_eq.mp found |>.1

/-- A pass that goes on leaves a shorter buffer. -/
theorem pass_shrinks {c : Capture} (goes : c.pass.2 = true) (held : c.buf ≠ []) :
    c.pass.1.buf.length < c.buf.length := by
  have nonempty := List.length_pos.mpr held
  revert goes
  unfold pass
  split
  · intro _; exact nonempty
  · next idx found =>
    have inside := findIdx?_lt found
    dsimp only
    split_ifs <;> simp [frameSize] <;> (try split_ifs) <;> omega

/-- `while len(buf) >= 8` run to its end. -/
def drain (c : Capture) : Capture :=
  if c.buf.length < 8 then c
  else if c.pass.2 then c.pass.1.drain else c.pass.1
termination_by c.buf.length
decreasing_by exact pass_shrinks ‹_› (List.ne_nil_of_length_pos (by omega))

/-- The outer loop over the successive results of `ser.read(256)`. -/
def run (c : Capture) : List (List UInt8) → Capture
  | [] => c
  | data :: rest => ({ c with buf := c.buf ++ data }.drain).run rest

/-- `count` applied to the header fields of a `build_frame` call. -/
def countFrame (c : Capture) (f : FrameArgs) : Capture :=
  c.count f.frameType f.dest f.src (f.data.getD []).length

/-! ### One pass -/

theorem ite_with_buf {p : Prop} [Decidable p] (x y : Capture) (b : List UInt8) :
    { (if p then x else y) with buf := b } = if p then { x with buf := b } else { y with buf := b } := by
  split <;> rfl

/-- `count` never reads the buffer. -/
theorem count_with_buf (c : Capture) (b : List UInt8) (ftype dest src : UInt8) (dataLen : Nat) :
    ({ c with buf := b }).count ftype dest src dataLen = { c.count ftype dest src dataLen with buf := b } := by
  simp only [count, ite_with_buf]

@[simp] theorem count_buf (c : Capture) (ftype dest src : UInt8) (dataLen : Nat) :
    (c.count ftype dest src dataLen).buf = c.buf := by
  have same := congrArg Capture.buf (count_with_buf c c.buf ftype dest src dataLen)
  exact same

theorem foldl_countFrame_with_buf (frames : List FrameArgs) (c : Capture) (b : List UInt8) :
    frames.foldl countFrame { c with buf := b } = { frames.foldl countFrame c with buf := b } := by
  induction frames generalizing c with
  | nil => rfl
  | cons f rest ih =>
    rw [List.foldl_cons, List.foldl_cons, countFrame, count_with_buf, ih]
    rfl

/-- A pass on a buffer that starts with a whole header. -/
theorem pass_header (c : Capture) {t d s hi lo hc : UInt8} {body : List UInt8}
    (at_head : c.buf = 0x55 :: 0xFF :: t :: d :: s :: hi :: lo :: hc :: body) :
    c.pass = if body.length + 8 < frameSize (hi.toNat <<< 8 ||| lo.toNat) then (c, false)
      else ({ c.count t d s (hi.toNat <<< 8 ||| lo.toNat) with
        buf := c.buf.drop (frameSize (hi.toNat <<< 8 ||| lo.toNat)) }, true) := by
  obtain ⟨buf, frameCount, pfmTo3, replyFrom3, tokenTo3, shown⟩ := c
  subst at_head
  simp only [pass, List.findIdx?_cons, beq_self_eq_true, if_true, List.drop_zero, List.getD_cons_succ,
    List.getD_cons_zero, List.length_cons]
  simp only [show ¬(body.length + 1 + 1 + 1 + 1 + 1 + 1 + 1 + 1 < 2 ∨ (255 : UInt8) ≠ 255) by simp,
    show ¬ body.length + 1 + 1 + 1 + 1 + 1 + 1 + 1 + 1 < 8 by omega, if_false]

/-- The layout of a `build_frame` frame as the script reads it. -/
theorem bytes_eq_header (f : FrameArgs) (fits : (f.data.getD []).length ≤ 65535) :
    ∃ hi lo hc body, f.bytes = 0x55 :: 0xFF :: f.frameType :: f.dest :: f.src :: hi :: lo :: hc :: body ∧
      hi.toNat <<< 8 ||| lo.toNat = (f.data.getD []).length ∧
      body.length + 8 = frameSize (f.data.getD []).length := by
  obtain ⟨t, d, s, _ | _ | ⟨x, xs⟩⟩ := f
  · exact ⟨_, _, _, [], rfl, rfl, rfl⟩
  · exact ⟨_, _, _, [], rfl, rfl, rfl⟩
  · simp only [Option.getD_some] at fits ⊢
    refine ⟨_, _, _, _, rfl, hiByte_lor_loByte (by omega), ?_⟩
    rw [frameSize, if_neg (by simp)]
    simp only [packLE16, List.append_eq, List.nil_append, List.length_append, List.length_cons,
      List.length_nil]
    omega

/-- A pass on a buffer that starts with a whole frame counts it and goes on. -/
theorem pass_frame (c : Capture) {f : FrameArgs} (fits : (f.data.getD []).length ≤ 65535)
    {rest : List UInt8} (at_head : c.buf = f.bytes ++ rest) :
    c.pass = ({ c.countFrame f with buf := rest }, true) := by
  obtain ⟨hi, lo, hc, body, bytes, length, size⟩ := bytes_eq_header f fits
  rw [bytes] at at_head
  rw [pass_header c at_head, if_neg (by rw [length]; simp only [List.append_eq, List.length_append, not_lt]; omega), length, at_head]
  simp only [List.cons_append, ← size]
  simp [countFrame]

/-- A pass on at least eight bytes of a frame that has not all arrived waits for the rest. -/
theorem pass_partial (c : Capture) {f : FrameArgs} (fits : (f.data.getD []).length ≤ 65535)
    {q : List UInt8} (start : c.buf ++ q = f.bytes) (missing : q ≠ []) (long : 8 ≤ c.buf.length) :
    c.pass = (c, false) := by
  obtain ⟨hi, lo, hc, body, bytes, length, size⟩ := bytes_eq_header f fits
  have shorter : c.buf.length < f.bytes.length := by
    rw [← start, List.length_append]; have := List.length_pos.mpr missing; omega
  rw [bytes] at start shorter
  obtain ⟨buf, frameCount, pfmTo3, replyFrom3, tokenTo3, shown⟩ := c
  simp only at start shorter long
  rcases buf with _ | ⟨a, _ | ⟨b, _ | ⟨t, _ | ⟨d, _ | ⟨s, _ | ⟨h, _ | ⟨l, _ | ⟨k, part⟩⟩⟩⟩⟩⟩⟩⟩ <;>
    simp only [List.length_cons, List.length_nil] at long
  all_goals try omega
  simp only [List.cons_append, List.cons.injEq] at start
  obtain ⟨rfl, rfl, rfl, rfl, rfl, rfl, rfl, rfl, -⟩ := start
  rw [pass_header _ rfl, if_pos (by simp only [List.length_cons] at shorter ⊢; rw [length, ← size]; omega)]

/-- Bytes without `0x55` in front of a `0x55` are skipped by the search for the preamble. -/
theorem pass_skip (c : Capture) {noise rest : List UInt8} (quiet : ∀ x ∈ noise, x ≠ 0x55)
    (start : rest.head? = some 0x55) :
    ({ c with buf := noise ++ rest }).pass = ({ c with buf := rest }).pass := by
  obtain _ | ⟨x, rest⟩ := rest
  · cases start
  · obtain rfl : x = 0x55 := by simpa using start
    have none : noise.findIdx? (· == 0x55) = none :=
      List.findIdx?_eq_none_iff.mpr fun x mem => by simpa using quiet x mem
    simp only [pass, List.findIdx?_append, none, List.findIdx?_cons, beq_self_eq_true, if_true,
      Option.map_some', Nat.zero_add, Option.none_or, List.drop_left, List.drop_zero, count_with_buf]

/-! ### The drain -/

theorem drain_of_short {c : Capture} (short : c.buf.length < 8) : c.drain = c := by
  rw [drain, if_pos short]

theorem drain_of_goes {c : Capture} (long : 8 ≤ c.buf.length) (goes : c.pass.2 = true) :
    c.drain = c.pass.1.drain := by
  rw [drain, if_neg (by omega), if_pos goes]

theorem drain_of_stops {c : Capture} (long : 8 ≤ c.buf.length) (stops : c.pass.2 = false) :
    c.drain = c.pass.1 := by
  rw [drain, if_neg (by omega), if_neg (by simp [stops])]

/-- `b` holds less than the first of `frames`: nothing, or the start of that frame. -/
def Short (frames : List FrameArgs) (b : List UInt8) : Prop :=
  b = [] ∨ ∃ f rest, frames = f :: rest ∧ b.length < f.bytes.length

/-- Draining a buffer that is the start of a stream of frames counts the whole frames it
holds and keeps the start of the next one. -/
theorem drain_prefix (frames : List FrameArgs)
    (fits : ∀ f ∈ frames, (f.data.getD []).length ≤ 65535) :
    ∀ (c : Capture) (later : List UInt8), c.buf ++ later = (frames.map FrameArgs.bytes).flatten →
      ∃ k b, c.drain = { (frames.take k).foldl countFrame c with buf := b } ∧
        b ++ later = ((frames.drop k).map FrameArgs.bytes).flatten ∧ Short (frames.drop k) b := by
  induction frames with
  | nil =>
    intro c later whole
    obtain ⟨empty, -⟩ := List.append_eq_nil.mp whole
    refine ⟨0, [], ?_, by simpa [empty] using whole, .inl rfl⟩
    rw [drain_of_short (by simp [empty])]
    obtain ⟨buf, _⟩ := c
    cases empty
    rfl
  | cons f frames ih =>
    intro c later whole
    have fit := fits f (List.mem_cons_self _ _)
    have framed := length_buildFrame f
    rw [List.map_cons, List.flatten_cons] at whole
    by_cases part : c.buf.length < f.bytes.length
    · -- the buffer holds part of `f` only: the loop waits
      have start : c.buf ++ f.bytes.drop c.buf.length = f.bytes := by
        conv => rhs; rw [← List.take_append_drop c.buf.length f.bytes]
        rw [← @List.take_append_of_le_length _ f.bytes (frames.map FrameArgs.bytes).flatten _ part.le,
          ← whole, List.take_left]
      have waits : c.drain = c := by
        by_cases short : c.buf.length < 8
        · exact drain_of_short short
        · have stops := pass_partial c fit start
            (List.ne_nil_of_length_pos (by simp only [List.length_drop]; omega)) (by omega)
          rw [drain_of_stops (by omega) (by rw [stops]), stops]
      exact ⟨0, c.buf, waits, by simpa using whole, .inr ⟨f, frames, rfl, part⟩⟩
    · -- the buffer holds all of `f`: the loop counts it and goes on
      have head : c.buf = f.bytes ++ c.buf.drop f.bytes.length := by
        conv => lhs; rw [← List.take_append_drop f.bytes.length c.buf]
        rw [← @List.take_append_of_le_length _ c.buf later _ (by omega), whole, List.take_left]
      have counted := pass_frame c fit head
      have rest : c.buf.drop f.bytes.length ++ later = (frames.map FrameArgs.bytes).flatten := by
        rw [head, List.append_assoc] at whole
        simpa using List.append_cancel_left whole
      obtain ⟨k, b, drained, left, short⟩ := ih (fun g mem => fits g (List.mem_cons_of_mem _ mem))
        { c.countFrame f with buf := c.buf.drop f.bytes.length } later rest
      refine ⟨k + 1, b, ?_, left, short⟩
      rw [drain_of_goes (by omega) (by rw [counted]), counted, drained,
        foldl_countFrame_with_buf]
      rfl

theorem Short.eq_nil {frames : List FrameArgs}
    (short : Short frames (frames.map FrameArgs.bytes).flatten) : frames = [] := by
  rcases short with empty | ⟨f, rest, rfl, shorter⟩
  · cases frames with
    | nil => rfl
    | cons f rest =>
      have := length_buildFrame f
      simp only [List.map_cons, List.flatten_cons, List.append_eq_nil] at empty
      rw [empty.1] at this
      simp at this
  · simp only [List.map_cons, List.flatten_cons, List.length_append] at shorter
    omega

/-- Over the reads, the buffer followed by the reads to come is the bytes of the frames
not yet counted; at the end every frame has been counted. -/
theorem run_frames (frames : List FrameArgs) (fits : ∀ f ∈ frames, (f.data.getD []).length ≤ 65535)
    (reads : List (List UInt8)) (c : Capture)
    (stream : c.buf ++ reads.flatten = (frames.map FrameArgs.bytes).flatten) (short : Short frames c.buf) :
    c.run reads = { frames.foldl countFrame c with buf := [] } := by
  induction reads generalizing frames c with
  | nil =>
    rw [List.flatten_nil, List.append_nil] at stream
    rw [stream] at short
    obtain rfl := short.eq_nil
    obtain ⟨buf, _⟩ := c
    cases stream
    rfl
  | cons data reads ih =>
    obtain ⟨k, b, drained, left, next⟩ := drain_prefix frames fits { c with buf := c.buf ++ data }
      reads.flatten (by rw [← stream, List.flatten_cons, List.append_assoc])
    rw [run, drained, ih (frames.drop k) (fun f mem => fits f (List.mem_of_mem_drop mem)) _ left next,
      foldl_countFrame_with_buf, ← List.foldl_append, List.take_append_drop, foldl_countFrame_with_buf]

/-! ### The counters -/

theorem count_counters (c : Capture) (ftype dest src : UInt8) (dataLen : Nat) :
    (c.count ftype dest src dataLen).frameCount = c.frameCount + 1 ∧
      (c.count ftype dest src dataLen).pfmTo3 = c.pfmTo3 + (if ftype = 1 ∧ dest = 3 then 1 else 0) ∧
      (c.count ftype dest src dataLen).replyFrom3 =
        c.replyFrom3 + (if ftype = 2 ∧ src = 3 then 1 else 0) ∧
      (c.count ftype dest src dataLen).tokenTo3 =
        c.tokenTo3 + (if ftype = 0 ∧ dest = 3 then 1 else 0) := by
  simp only [count, apply_ite Capture.frameCount, apply_ite Capture.pfmTo3, apply_ite Capture.replyFrom3,
    apply_ite Capture.tokenTo3, ite_self]
  split_ifs <;> simp_all

/-- Counting frames one by one adds one frame per frame, and one to each station-3
counter per frame of its kind. -/
theorem foldl_countFrame_counters (frames : List FrameArgs) (c : Capture) :
    (frames.foldl countFrame c).frameCount = c.frameCount + frames.length ∧
      (frames.foldl countFrame c).pfmTo3 =
        c.pfmTo3 + frames.countP (fun f => f.frameType = 1 ∧ f.dest = 3) ∧
      (frames.foldl countFrame c).replyFrom3 =
        c.replyFrom3 + frames.countP (fun f => f.frameType = 2 ∧ f.src = 3) ∧
      (frames.foldl countFrame c).tokenTo3 =
        c.tokenTo3 + frames.countP (fun f => f.frameType = 0 ∧ f.dest = 3) := by
  induction frames generalizing c with
  | nil => simp
  | cons f rest ih =>
    obtain ⟨frames, pfm, reply, token⟩ := ih (c.countFrame f)
    obtain ⟨frames₁, pfm₁, reply₁, token₁⟩ := count_counters c f.frameType f.dest f.src (f.data.getD []).length
    simp only [countFrame] at frames pfm reply token
    simp only [List.foldl_cons, countFrame, frames, pfm, reply, token, frames₁, pfm₁, reply₁, token₁,
      List.length_cons, List.countP_cons, decide_eq_true_eq]
    omega

end Capture

/-- On a stream of `build_frame` frames and nothing else, however the reads split it,
the capture loop ends with an empty buffer and with the variables and printed lines of
counting the frames one by one in order: `Total frames` is the number of frames, and
each station-3 counter the number of frames of its kind. -/
theorem capture_counts_clean_stream (frames : List FrameArgs)
    (fits : ∀ f ∈ frames, (f.data.getD []).length ≤ 65535) (reads : List (List UInt8))
    (whole : reads.flatten = (frames.map FrameArgs.bytes).flatten) :
    Capture.init.run reads = { frames.foldl Capture.countFrame Capture.init with buf := [] } ∧
      (Capture.init.run reads).frameCount = frames.length ∧
      (Capture.init.run reads).pfmTo3 = frames.countP (fun f => f.frameType = 1 ∧ f.dest = 3) ∧
      (Capture.init.run reads).replyFrom3 = frames.countP (fun f => f.frameType = 2 ∧ f.src = 3) ∧
      (Capture.init.run reads).tokenTo3 = frames.countP (fun f => f.frameType = 0 ∧ f.dest = 3) := by
  have ran := Capture.run_frames frames fits reads Capture.init (by simpa using whole) (.inl rfl)
  obtain ⟨counted, pfm, reply, token⟩ := Capture.foldl_countFrame_counters frames Capture.init
  rw [ran]
  exact ⟨rfl, counted.trans (Nat.zero_add _), pfm.trans (Nat.zero_add _),
    reply.trans (Nat.zero_add _), token.trans (Nat.zero_add _)⟩

/-- A Poll-For-Master to 3 and a Token read across three reads split inside both
frames. -/
theorem capture_counts_clean_stream_two_frames :
    (∀ f ∈ [(⟨1, 3, 2, none⟩ : FrameArgs), ⟨0, 3, 2, none⟩], (f.data.getD []).length ≤ 65535) ∧
      [(FrameArgs.bytes ⟨1, 3, 2, none⟩).take 5,
          (FrameArgs.bytes ⟨1, 3, 2, none⟩).drop 5 ++ (FrameArgs.bytes ⟨0, 3, 2, none⟩).take 1,
          (FrameArgs.bytes ⟨0, 3, 2, none⟩).drop 1].flatten =
        ([(⟨1, 3, 2, none⟩ : FrameArgs), ⟨0, 3, 2, none⟩].map FrameArgs.bytes).flatten ∧
      Capture.init.run [(FrameArgs.bytes ⟨1, 3, 2, none⟩).take 5,
          (FrameArgs.bytes ⟨1, 3, 2, none⟩).drop 5 ++ (FrameArgs.bytes ⟨0, 3, 2, none⟩).take 1,
          (FrameArgs.bytes ⟨0, 3, 2, none⟩).drop 1] =
        { [(⟨1, 3, 2, none⟩ : FrameArgs), ⟨0, 3, 2, none⟩].foldl Capture.countFrame Capture.init with
          buf := [] } := by
  have fits : ∀ f ∈ [(⟨1, 3, 2, none⟩ : FrameArgs), ⟨0, 3, 2, none⟩], (f.data.getD []).length ≤ 65535 := by
    simp
  have whole : [(FrameArgs.bytes ⟨1, 3, 2, none⟩).take 5,
        (FrameArgs.bytes ⟨1, 3, 2, none⟩).drop 5 ++ (FrameArgs.bytes ⟨0, 3, 2, none⟩).take 1,
        (FrameArgs.bytes ⟨0, 3, 2, none⟩).drop 1].flatten =
      ([(⟨1, 3, 2, none⟩ : FrameArgs), ⟨0, 3, 2, none⟩].map FrameArgs.bytes).flatten := by
    decide
  exact ⟨fits, whole, (capture_counts_clean_stream _ fits _ whole).1⟩

/-- Behind at least seven bytes without `0x55`, a frame without payload whose first read
ends right after its `0x55` is not counted, while read whole it is: with eight bytes
buffered, the search moves to the lone `0x55`, the `len(buf) < 2` test drops it, and the
seven bytes that follow never reach eight. -/
theorem capture_loses_frame_split_after_preamble (noise : List UInt8) (quiet : ∀ x ∈ noise, x ≠ 0x55)
    (long : 7 ≤ noise.length) (frameType dest src : UInt8) :
    (Capture.init.run [noise ++ (buildFrame frameType dest src none).take 1,
        (buildFrame frameType dest src none).drop 1]).frameCount = 0 ∧
      (Capture.init.run [noise ++ buildFrame frameType dest src none]).frameCount = 1 := by
  have init_buf : Capture.init.buf = [] := rfl
  have dropped : ({ Capture.init with buf := noise ++ [0x55] }).drain = { Capture.init with buf := [] } := by
    have skip := @Capture.pass_skip Capture.init noise [0x55] quiet rfl
    rw [Capture.drain_of_goes (by simp only [List.length_append, List.length_singleton]; omega)
      (by rw [skip]; rfl), skip]
    apply Capture.drain_of_short
    decide
  have counted : ({ Capture.init with buf := noise ++ buildFrame frameType dest src none }).drain =
      { ({ Capture.init with buf := buildFrame frameType dest src none }).countFrame
          ⟨frameType, dest, src, none⟩ with buf := [] } := by
    have skip := @Capture.pass_skip Capture.init noise (buildFrame frameType dest src none) quiet rfl
    have frame := Capture.pass_frame { Capture.init with buf := buildFrame frameType dest src none }
      (f := ⟨frameType, dest, src, none⟩) (Nat.zero_le _) (List.append_nil _).symm
    have long := length_buildFrame ⟨frameType, dest, src, none⟩
    rw [Capture.drain_of_goes (by simp only [FrameArgs.bytes, List.length_append] at long ⊢; omega)
      (by rw [skip, frame]), skip, frame]
    apply Capture.drain_of_short
    simp
  refine ⟨?_, ?_⟩
  · rw [show (buildFrame frameType dest src none).take 1 = [0x55] from rfl, Capture.run, init_buf,
      List.nil_append, dropped, Capture.run, List.nil_append,
      Capture.drain_of_short (by simp [buildFrame])]
    rfl
  · rw [Capture.run, init_buf, List.nil_append, counted]
    exact (Capture.count_counters _ _ _ _ _).1

/-- Seven zero bytes, then a Token from 2 to 3 read in two parts split after its
`0x55`. -/
theorem capture_loses_token_split_after_preamble :
    (∀ x ∈ List.replicate 7 (0 : UInt8), x ≠ 0x55) ∧ 7 ≤ (List.replicate 7 (0 : UInt8)).length ∧
      (Capture.init.run [List.replicate 7 0 ++ (buildFrame 0 3 2 none).take 1,
          (buildFrame 0 3 2 none).drop 1]).frameCount = 0 ∧
      (Capture.init.run [List.replicate 7 0 ++ buildFrame 0 3 2 none]).frameCount = 1 := by
  have quiet : ∀ x ∈ List.replicate 7 (0 : UInt8), x ≠ 0x55 := by simp
  exact ⟨quiet, by simp, capture_loses_frame_split_after_preamble _ quiet (by simp) 0 3 2⟩

end MstpLink.CaptureScript
