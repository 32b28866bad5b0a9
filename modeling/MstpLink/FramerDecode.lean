import MstpLink.FramerChunking

/-! Frames built by `build_frame`, interleaved with noise, are decoded exactly.

A stream is `g0 f1 g1 ... fn gn`: each `fi` the output of `build_frame`, each `gi`
arbitrary bytes, under one condition on the noise: no preamble that starts inside a
noise segment opens a header whose CRC checks. The proof drains the whole stream at
once and moves frame by frame: a false preamble in the noise fails its header check
and is skipped two bytes at a time (`drain_past_garbage`), and at a real frame the
header and data checks pass (`parseAt_buildFrame`). By `runChunks_eq_drain`, every
split of the stream across reads returns the same frames. -/

namespace MstpLink.Simulator

/-- The arguments of one `build_frame(frame_type, dest, src, data)` call. -/
structure FrameArgs where
  frameType : UInt8
  dest : UInt8
  src : UInt8
  data : Option (List UInt8)

/-- The bytes `build_frame` returns for these arguments. -/
def FrameArgs.bytes (f : FrameArgs) : List UInt8 := buildFrame f.frameType f.dest f.src f.data

/-- The tuple a receiver should report: the payload if it is non-empty, else `None`. -/
def FrameArgs.decoded (f : FrameArgs) : Frame :=
  ⟨f.frameType, f.dest, f.src, match f.data with | some (x :: xs) => some (x :: xs) | _ => none⟩

/-- The stream `g0 f1 g1 ... fn gn`, from `g0` and the pairs `(fi, gi)`. -/
def interleave : List UInt8 → List (FrameArgs × List UInt8) → List UInt8
  | g, [] => g
  | g, (f, g') :: rest => g ++ f.bytes ++ interleave g' rest

/-- No `0x55 0xFF` starting inside `garbage`, with `tail` after it on the wire, is
followed by a 6-byte window whose sixth byte is `crc8_header` of its first five. -/
def NoFalseHeader (garbage tail : List UInt8) : Prop :=
  ∀ j < garbage.length, ∀ t d s hi lo hc rest,
    (garbage ++ tail).drop j = 0x55 :: 0xFF :: t :: d :: s :: hi :: lo :: hc :: rest →
      crc8Header [t, d, s, hi, lo] ≠ hc.toNat

/-- Every noise segment of `interleave g0 frames` is free of false headers against
all that follows it. -/
def CleanStream : List UInt8 → List (FrameArgs × List UInt8) → Prop
  | g, [] => NoFalseHeader g []
  | g, (f, g') :: rest => NoFalseHeader g (f.bytes ++ interleave g' rest) ∧ CleanStream g' rest

theorem findPreamble_spec {b : List UInt8} {p : Nat} (found : findPreamble b = some p) :
    ∃ rest, b.drop p = 0x55 :: 0xFF :: rest := by
  induction b generalizing p with
  | nil => simp [findPreamble] at found
  | cons x tail ih =>
    rw [findPreamble_cons] at found
    split at found
    · next hit =>
      cases found
      obtain ⟨rfl, head⟩ := hit
      cases tail with
      | nil => simp at head
      | cons y ys => simp only [List.head?_cons, Option.some.injEq] at head; exact ⟨ys, by simp [head]⟩
    · obtain ⟨q, hq, rfl⟩ := Option.map_eq_some'.mp found
      exact ih hq

/-- A preamble at `q` in `T` bounds the first preamble of `g ++ T`. -/
theorem findPreamble_append_le {T : List UInt8} {q : Nat} (found : findPreamble T = some q)
    (g : List UInt8) : ∃ p, findPreamble (g ++ T) = some p ∧ p ≤ g.length + q := by
  induction g with
  | nil => exact ⟨q, found, by simp⟩
  | cons x g ih =>
    obtain ⟨p, hp, bound⟩ := ih
    rw [List.cons_append, findPreamble_cons, hp]
    split
    · exact ⟨0, rfl, Nat.zero_le _⟩
    · exact ⟨p + 1, rfl, by simp; omega⟩

theorem NoFalseHeader.drop {g T : List UInt8} (clean : NoFalseHeader g T) (k : Nat) :
    NoFalseHeader (g.drop k) T := by
  intro j hj t d s hi lo hc rest window
  rw [← List.drop_append_of_le_length (by simp at hj; omega), List.drop_drop] at window
  exact clean (k + j) (by simp at hj; omega) t d s hi lo hc rest window

/-- Noise in front of a frame, or at the end of the stream, returns no frame of its own. -/
theorem drain_past_garbage {g T : List UInt8} (clean : NoFalseHeader g T)
    (next : T = [] ∨ (findPreamble T = some 0 ∧ 8 ≤ T.length)) :
    (drain (g ++ T)).1 = (drain T).1 := by
  induction' size : g.length using Nat.strong_induction_on with n ih generalizing g
  by_cases short : (g ++ T).length < 8
  · have empty : T = [] := by
      rcases next with empty | ⟨-, long⟩
      · exact empty
      · simp at short; omega
    rw [drain_of_length_lt short, empty, drain_of_length_lt (by simp)]
  cases found : findPreamble (g ++ T) with
  | none =>
    rw [drain_no_preamble found]
    rcases next with rfl | ⟨start, -⟩
    · exact (drain_of_length_lt (b := []) (by simp)).symm ▸ rfl
    · obtain ⟨p, hp, -⟩ := findPreamble_append_le start g
      simp [found] at hp
  | some p =>
    obtain ⟨rest, at_p⟩ := findPreamble_spec found
    by_cases inside : p < g.length
    · have split : (g ++ T).drop p = g.drop p ++ T := List.drop_append_of_le_length (by omega)
      have two : p + 2 ≤ g.length := by
        by_contra edge
        obtain ⟨a, single⟩ : ∃ a, g.drop p = [a] := List.length_eq_one.mp (by simp; omega)
        rw [split, single] at at_p
        simp only [List.singleton_append, List.cons.injEq] at at_p
        rcases next with empty | ⟨start, -⟩
        · simp [empty] at at_p
        · obtain ⟨tail, starts⟩ := findPreamble_spec start
          simp [at_p.2] at starts
      rw [drain_frames, parseFrame_of_some (by omega) found]
      by_cases window : ((g ++ T).drop p).length < 8
      · -- the false preamble ends the stream before a whole header
        have empty : T = [] := by
          rcases next with empty | ⟨-, long⟩
          · exact empty
          · rw [split, List.length_append] at window; omega
        rw [parseAt_short window, Option.toList_none, List.nil_append, drain_of_length_lt window,
          empty, drain_of_length_lt (b := []) (by simp)]
      -- a whole header follows the false preamble: its CRC fails and two bytes are skipped
      rw [at_p] at window ⊢
      rcases rest with _ | ⟨t, _ | ⟨d, _ | ⟨s, _ | ⟨hi, _ | ⟨lo, _ | ⟨hc, rest⟩⟩⟩⟩⟩⟩ <;>
        simp only [List.length_cons, List.length_nil] at window
      all_goals try omega
      have bad := clean p inside t d s hi lo hc rest at_p
      have skipped : ((g ++ T).drop p).drop 2 = g.drop (p + 2) ++ T := by
        rw [split, List.drop_append_of_le_length (by simp; omega), List.drop_drop, Nat.add_comm]
      rw [parseAt, if_pos bad, Option.toList_none, List.nil_append, ← at_p, skipped]
      exact ih _ (by simp; omega) (clean.drop (p + 2)) rfl
    · rcases next with rfl | ⟨start, -⟩
      · have := findPreamble_lt found; simp at this; omega
      obtain ⟨p', hp', bound⟩ := findPreamble_append_le start g
      rw [found, Option.some.injEq] at hp'
      exact drain_skip (by rw [found, start]; simp; omega)

/-- `parse_frame` reads back what `build_frame` wrote: both CRCs check, the length field
gives the payload length, and exactly the frame's bytes are consumed. -/
theorem parseAt_buildFrame (f : FrameArgs) (fits : (f.data.getD []).length ≤ 65535)
    (rest : List UInt8) : parseAt (f.bytes ++ rest) = (some f.decoded, rest) := by
  obtain ⟨t, d, s, data⟩ := f
  have header := fun hdr => toNat_ofNat_of_lt_256 (crc8Header_lt hdr)
  rcases data with _ | _ | ⟨x, xs⟩
  · simp [FrameArgs.bytes, FrameArgs.decoded, buildFrame, parseAt, header, loByte, hiByte]
  · simp [FrameArgs.bytes, FrameArgs.decoded, buildFrame, parseAt, header, loByte, hiByte]
  · have pos : 0 < (x :: xs).length := by simp
    simp only [Option.getD_some] at fits
    simp only [FrameArgs.bytes, FrameArgs.decoded, buildFrame]
    generalize x :: xs = data at fits pos ⊢
    have length := hiByte_lor_loByte (v := data.length) (by omega)
    have trailer := loByte_lor_hiByte (crc16Data_lt data)
    simp only [packLE16, List.cons_append, List.nil_append, List.append_assoc, parseAt, header,
      ne_eq, not_true_eq_false, if_false, length, if_pos pos]
    rw [if_neg (by simp), List.getD_append_right _ _ _ _ (le_refl _),
      List.getD_append_right _ _ _ _ (by omega), Nat.sub_self, Nat.add_sub_cancel_left,
      List.take_left' rfl, List.drop_append]
    simp [trailer]

theorem findPreamble_buildFrame (f : FrameArgs) (rest : List UInt8) :
    findPreamble (f.bytes ++ rest) = some 0 := by
  rcases f with ⟨t, d, s, _ | _ | ⟨x, xs⟩⟩ <;> rfl

theorem length_buildFrame (f : FrameArgs) : 8 ≤ f.bytes.length := by
  rcases f with ⟨t, d, s, _ | _ | ⟨x, xs⟩⟩ <;> simp [FrameArgs.bytes, buildFrame]

/-- A frame at the head of the buffer is returned whole, and draining goes on after it. -/
theorem drain_buildFrame (f : FrameArgs) (fits : (f.data.getD []).length ≤ 65535)
    (rest : List UInt8) : (drain (f.bytes ++ rest)).1 = f.decoded :: (drain rest).1 := by
  have long : 8 ≤ (f.bytes ++ rest).length := by
    simp only [List.length_append]; have := length_buildFrame f; omega
  rw [drain_frames, parseFrame_of_some long (findPreamble_buildFrame f rest), List.drop_zero,
    parseAt_buildFrame f fits]
  rfl

theorem drain_interleave (g : List UInt8) (frames : List (FrameArgs × List UInt8))
    (fits : ∀ x ∈ frames, (x.1.data.getD []).length ≤ 65535) (clean : CleanStream g frames) :
    (drain (interleave g frames)).1 = frames.map (·.1.decoded) := by
  induction frames generalizing g with
  | nil =>
    have done := drain_past_garbage (T := []) clean (.inl rfl)
    rw [List.append_nil] at done
    rw [interleave, done, drain_of_length_lt (by simp)]
    rfl
  | cons x rest ih =>
    obtain ⟨f, g'⟩ := x
    rw [interleave, List.append_assoc, drain_past_garbage clean.1
      (.inr ⟨findPreamble_buildFrame f _, by simp; have := length_buildFrame f; omega⟩),
      drain_buildFrame f (fits _ (List.mem_cons_self _ _)),
      ih g' (fun y hy => fits y (List.mem_cons_of_mem _ hy)) clean.2]
    rfl

/-- Frames from `build_frame` interleaved with noise that opens no valid false header
are returned exactly, in order and with nothing else, whatever the reads' split. -/
theorem parseFrame_decodes_interleaved (g0 : List UInt8) (frames : List (FrameArgs × List UInt8))
    (fits : ∀ x ∈ frames, (x.1.data.getD []).length ≤ 65535) (clean : CleanStream g0 frames)
    (chunks : List (List UInt8)) (whole : chunks.flatten = interleave g0 frames) :
    runChunks [] chunks = frames.map (·.1.decoded) := by
  rw [runChunks_eq_drain, whole, drain_interleave g0 frames fits clean]

/-- Noise `00 55` before a Token from 2 to 1, noise `55 00`, then a data frame from 1 to 2
whose payload is `55 FF`, read in three pieces that cut both frames. -/
theorem parseFrame_decodes_two_frames_in_noisy_reads :
    (∀ x ∈ [((⟨0, 1, 2, none⟩ : FrameArgs), ([0x55, 0x00] : List UInt8)), (⟨6, 2, 1, some [0x55, 0xFF]⟩, [])],
        (x.1.data.getD []).length ≤ 65535) ∧
      CleanStream [0x00, 0x55] [(⟨0, 1, 2, none⟩, [0x55, 0x00]), (⟨6, 2, 1, some [0x55, 0xFF]⟩, [])] ∧
      [(interleave [0x00, 0x55] [(⟨0, 1, 2, none⟩, [0x55, 0x00]), (⟨6, 2, 1, some [0x55, 0xFF]⟩, [])]).take 5,
          ((interleave [0x00, 0x55] [(⟨0, 1, 2, none⟩, [0x55, 0x00]), (⟨6, 2, 1, some [0x55, 0xFF]⟩, [])]).drop
            5).take 10,
          ((interleave [0x00, 0x55] [(⟨0, 1, 2, none⟩, [0x55, 0x00]), (⟨6, 2, 1, some [0x55, 0xFF]⟩, [])]).drop
            5).drop 10].flatten =
        interleave [0x00, 0x55] [(⟨0, 1, 2, none⟩, [0x55, 0x00]), (⟨6, 2, 1, some [0x55, 0xFF]⟩, [])] ∧
      runChunks []
          [(interleave [0x00, 0x55] [(⟨0, 1, 2, none⟩, [0x55, 0x00]), (⟨6, 2, 1, some [0x55, 0xFF]⟩, [])]).take 5,
            ((interleave [0x00, 0x55] [(⟨0, 1, 2, none⟩, [0x55, 0x00]), (⟨6, 2, 1, some [0x55, 0xFF]⟩, [])]).drop
              5).take 10,
            ((interleave [0x00, 0x55] [(⟨0, 1, 2, none⟩, [0x55, 0x00]), (⟨6, 2, 1, some [0x55, 0xFF]⟩, [])]).drop
              5).drop 10] =
        [((⟨0, 1, 2, none⟩ : FrameArgs), ([0x55, 0x00] : List UInt8)), (⟨6, 2, 1, some [0x55, 0xFF]⟩, [])].map
          (·.1.decoded) := by
  have fits : ∀ x ∈ [((⟨0, 1, 2, none⟩ : FrameArgs), ([0x55, 0x00] : List UInt8)),
      (⟨6, 2, 1, some [0x55, 0xFF]⟩, [])], (x.1.data.getD []).length ≤ 65535 := by simp
  have clean : CleanStream [0x00, 0x55] [(⟨0, 1, 2, none⟩, [0x55, 0x00]), (⟨6, 2, 1, some [0x55, 0xFF]⟩, [])] := by
    refine ⟨?_, ?_, fun j below => absurd below (Nat.not_lt_zero j)⟩ <;>
    · rintro (_ | _ | j) below t d s hi lo hc rest found
      iterate 2 simp [FrameArgs.bytes, buildFrame, interleave] at found
      exact absurd below (by simp only [List.length_cons, List.length_nil]; omega)
  have whole := List.take_append_drop 5 (interleave [0x00, 0x55]
    [(⟨0, 1, 2, none⟩, [0x55, 0x00]), (⟨6, 2, 1, some [0x55, 0xFF]⟩, [])])
  rw [← List.take_append_drop 10 (List.drop 5 _)] at whole
  refine ⟨fits, clean, ?_, parseFrame_decodes_interleaved _ _ fits clean _ ?_⟩ <;> simpa using whole

end MstpLink.Simulator
