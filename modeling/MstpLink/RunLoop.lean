import MstpLink.Reply
import MstpLink.FramerChunking

/-! The main loop of `MstpSimulator.run`, with the timing of the serial port left open.

Each pass of `while True` calls `process_rx`, which appends whatever bytes are waiting
(none when `in_waiting` is zero), then calls `parse_frame` once and `handle_frame` on the
frame it returns. How the bytes arrive, and how many passes find nothing waiting, is up
to the port; the schedule is the list of what each pass finds.

## Main results

* `run_handled_prefix`: at every pass of every schedule, the station is the result of
  `handle_frame` on the first frames of the stream, whatever bytes come after.
* `run_handles_stream`: once the loop has made as many idle passes as it holds bytes,
  it has handled exactly the frames of the whole stream drained at once.

## Proof strategy

One call of `parse_frame` on `b` is the first step of draining `b ++ c` for every `c`
(`drain_append_parseFrame`), so the frames handled so far, followed by what the buffer
still yields with any continuation, are the frames of the stream with that continuation
(`run_spec`). Idle passes drain the buffer one call at a time, and a buffer of `n`
bytes is drained after `n` passes (`run_idle`). The `time.sleep` calls and the
statistics printed on exit are not modelled. -/

namespace MstpLink.Simulator

/-- The station as the loop of `run` sees it: the fields `handle_frame` uses, and
`self.rx_buffer`. -/
structure RunState where
  station : MstpSimulator
  rxBuffer : List UInt8

namespace RunState

/-- One pass of the `while True` loop of `run`: `process_rx` appends the bytes `waiting`
on the port, `parse_frame` is called once, and `handle_frame` on the frame it returns. -/
def pass (r : RunState) (waiting : List UInt8) : RunState :=
  match parseFrame (r.rxBuffer ++ waiting) with
  | (some f, rest) => ⟨r.station.handleFrame f, rest⟩
  | (none, rest) => ⟨r.station, rest⟩

/-- The loop of `run`, one pass per entry of `reads`, each the bytes that pass finds
waiting. -/
def run (r : RunState) (reads : List (List UInt8)) : RunState := reads.foldl pass r

theorem pass_eq (r : RunState) (waiting : List UInt8) :
    r.pass waiting = ⟨r.station.handleFrames (parseFrame (r.rxBuffer ++ waiting)).1.toList,
      (parseFrame (r.rxBuffer ++ waiting)).2⟩ := by
  rw [pass]
  obtain ⟨_ | f, rest⟩ := parseFrame (r.rxBuffer ++ waiting) <;> rfl

theorem run_cons (r : RunState) (waiting : List UInt8) (reads : List (List UInt8)) :
    r.run (waiting :: reads) = (r.pass waiting).run reads :=
  rfl

theorem run_append (r : RunState) (reads more : List (List UInt8)) :
    r.run (reads ++ more) = (r.run reads).run more :=
  List.foldl_append _ _ _ _

end RunState

theorem MstpSimulator.handleFrames_append (st : MstpSimulator) (a b : List Frame) :
    st.handleFrames (a ++ b) = (st.handleFrames a).handleFrames b :=
  List.foldl_append _ _ _ _

theorem length_parseFrame_le (b : List UInt8) : (parseFrame b).2.length ≤ b.length := by
  rcases parseFrame_progress b with fixpoint | shorter
  · rw [fixpoint]
  · exact shorter.le

/-- Draining `b ++ c` returns what one call of `parse_frame` on `b` returns, then the
frames of draining what that call leaves followed by `c`. -/
theorem drain_append_parseFrame (b c : List UInt8) :
    (drain (b ++ c)).1 = (parseFrame b).1.toList ++ (drain ((parseFrame b).2 ++ c)).1 := by
  by_cases fixpoint : parseFrame b = (none, b)
  · rw [fixpoint]; rfl
  · exact drain_append_step fixpoint c

namespace RunState

/-! ### Any schedule -/

/-- After any schedule the station has handled some frames, and those frames followed by
what the buffer yields with any continuation `c` are the frames of the stream with `c`. -/
theorem run_spec (st : MstpSimulator) (rx : List UInt8) (reads : List (List UInt8)) :
    ∃ handled, (run ⟨st, rx⟩ reads).station = st.handleFrames handled ∧
      ∀ c, handled ++ (drain ((run ⟨st, rx⟩ reads).rxBuffer ++ c)).1 =
        (drain (rx ++ reads.flatten ++ c)).1 := by
  induction reads generalizing st rx with
  | nil => exact ⟨[], rfl, fun c => by simp [run]⟩
  | cons waiting reads ih =>
    obtain ⟨handled, station, frames⟩ :=
      ih (st.handleFrames (parseFrame (rx ++ waiting)).1.toList) (parseFrame (rx ++ waiting)).2
    refine ⟨(parseFrame (rx ++ waiting)).1.toList ++ handled, ?_, fun c => ?_⟩
    · rw [run_cons, pass_eq, station, MstpSimulator.handleFrames_append]
    · rw [run_cons, pass_eq, List.append_assoc, frames, List.flatten_cons]
      simp only [List.append_assoc]
      rw [← List.append_assoc rx waiting, drain_append_parseFrame (rx ++ waiting)]

/-- The buffer never holds more than the bytes received. -/
theorem length_run_le (r : RunState) (reads : List (List UInt8)) :
    (r.run reads).rxBuffer.length ≤ r.rxBuffer.length + reads.flatten.length := by
  induction reads generalizing r with
  | nil => simp [run]
  | cons waiting reads ih =>
    have first := length_parseFrame_le (r.rxBuffer ++ waiting)
    have rest := ih (r.pass waiting)
    simp only [List.length_append] at first
    simp only [run_cons, List.flatten_cons, List.length_append, pass_eq] at rest ⊢
    omega

/-! ### Idle passes -/

theorem run_of_fixpoint {r : RunState} (fixpoint : parseFrame r.rxBuffer = (none, r.rxBuffer))
    (n : Nat) : r.run (List.replicate n []) = r := by
  induction n with
  | zero => rfl
  | succ n ih =>
    rw [List.replicate_succ, run_cons, pass_eq, List.append_nil, fixpoint]
    exact ih

/-- Passes that find nothing waiting drain the buffer one call of `parse_frame` each; as
many passes as the buffer holds bytes drain it. -/
theorem run_idle (b : List UInt8) :
    ∀ (st : MstpSimulator) (n : Nat), b.length ≤ n →
      run ⟨st, b⟩ (List.replicate n []) = ⟨st.handleFrames (drain b).1, (drain b).2⟩ := by
  induction b using drain.induct with
  | case1 b fixpoint =>
    intro st n _
    rw [run_of_fixpoint fixpoint, drain_of_fixpoint fixpoint]
    rfl
  | case2 b moved ih =>
    intro st n enough
    have shorter := (parseFrame_progress b).resolve_left moved
    obtain ⟨n, rfl⟩ : ∃ k, n = k + 1 := ⟨n - 1, by omega⟩
    rw [List.replicate_succ, run_cons, pass_eq, List.append_nil, ih _ n (by omega),
      drain_of_moved moved, MstpSimulator.handleFrames_append]

/-! ### The frames handled -/

/-- At every pass of every schedule, whatever bytes arrive later, the station is
`handle_frame` applied to the first frames of the stream: the loop never handles a
frame early, out of order, or that later bytes would change. -/
theorem run_handled_prefix (st : MstpSimulator) (rx : List UInt8) (reads : List (List UInt8))
    (later : List UInt8) :
    ∃ handled, (run ⟨st, rx⟩ reads).station = st.handleFrames handled ∧
      handled <+: (drain (rx ++ reads.flatten ++ later)).1 := by
  obtain ⟨handled, station, frames⟩ := run_spec st rx reads
  exact ⟨handled, station, _, frames later⟩

/-- Whatever the split of the stream into reads, and however many passes find nothing
waiting in between, once the loop has made as many idle passes as bytes were received
it has handled exactly the frames of the whole stream, in order. -/
theorem run_handles_stream (st : MstpSimulator) (rx : List UInt8) (reads : List (List UInt8))
    (n : Nat) (idle : (rx ++ reads.flatten).length ≤ n) :
    (run ⟨st, rx⟩ (reads ++ List.replicate n [])).station =
      st.handleFrames (drain (rx ++ reads.flatten)).1 := by
  obtain ⟨handled, station, frames⟩ := run_spec st rx reads
  have held := length_run_le ⟨st, rx⟩ reads
  simp only [List.length_append] at idle held
  rw [run_append, run_idle _ _ n (by omega), station, ← MstpSimulator.handleFrames_append,
    ← List.append_nil (rx ++ reads.flatten), ← frames, List.append_nil]

/-- A Token from 2 to 4 read in two parts with three empty passes between them, then
eleven idle passes. -/
theorem run_handles_stream_token :
    ([] ++ [(buildFrame 0 4 2 none).take 3, [], [], [], (buildFrame 0 4 2 none).drop 3].flatten).length ≤ 11 ∧
      (run ⟨MstpSimulator.init 4 127, []⟩
        ([(buildFrame 0 4 2 none).take 3, [], [], [], (buildFrame 0 4 2 none).drop 3] ++
          List.replicate 11 [])).station =
        (MstpSimulator.init 4 127).handleFrames
          (drain ([] ++ [(buildFrame 0 4 2 none).take 3, [], [], [], (buildFrame 0 4 2 none).drop 3].flatten)).1 :=
  ⟨by decide, run_handles_stream _ _ _ 11 (by decide)⟩

end RunState

end MstpLink.Simulator
