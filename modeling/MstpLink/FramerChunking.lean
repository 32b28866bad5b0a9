import MstpLink.Framer
import Mathlib.Data.List.GetD

/-! How the bytes are split across reads does not change what `parse_frame` returns.

The simulator appends each read to `rx_buffer` and drains it. A call of
`parse_frame` that returns a frame or changes the buffer decides with bytes it
already holds, so it decides the same way on every extension of the buffer
(`parseAt_append`); a call that only discards bytes without a preamble start can be
skipped (`drain_skip`). Together they give `drain_append`: draining `b ++ c` returns
the frames of draining `b` and then those of draining what is left followed by
`c`. By induction over the reads, every split returns the frames of the whole stream
drained at once. -/

namespace MstpLink.Simulator

theorem findPreamble_cons (x : UInt8) (rest : List UInt8) :
    findPreamble (x :: rest) =
      if x = 0x55 ∧ rest.head? = some 0xFF then some 0 else (findPreamble rest).map (· + 1) :=
  rfl

theorem findPreamble_append_of_some {b : List UInt8} {pos : Nat}
    (found : findPreamble b = some pos) (c : List UInt8) :
    findPreamble (b ++ c) = some pos := by
  induction b generalizing pos with
  | nil => simp [findPreamble] at found
  | cons x rest ih =>
    have inner : rest ≠ [] := by rintro rfl; simp [findPreamble] at found
    have head : (rest ++ c).head? = rest.head? := by
      cases rest with
      | nil => exact absurd rfl inner
      | cons y ys => rfl
    simp only [findPreamble, List.cons_append, head] at found ⊢
    split at found
    · simp [*] at found ⊢
    · obtain ⟨q, hq, rfl⟩ := Option.map_eq_some'.mp found
      simp [*, ih hq]

/-- The buffer from a found preamble on starts with that preamble. -/
theorem findPreamble_drop {b : List UInt8} {pos : Nat} (found : findPreamble b = some pos)
    (c : List UInt8) : findPreamble (b.drop pos ++ c) = some 0 := by
  induction b generalizing pos with
  | nil => simp [findPreamble] at found
  | cons x rest ih =>
    simp only [findPreamble] at found
    split at found
    · cases found
      exact findPreamble_append_of_some (by simp [findPreamble, *]) c
    · obtain ⟨q, hq, rfl⟩ := Option.map_eq_some'.mp found
      exact ih hq

/-- Without a preamble in `b`, a preamble of `b ++ c` starts at the last byte of `b`
or later. -/
theorem findPreamble_append_of_none {b : List UInt8} (none : findPreamble b = none)
    (c : List UInt8) :
    findPreamble (b ++ c) =
      (findPreamble (b.drop (b.length - 1) ++ c)).map (· + (b.length - 1)) := by
  induction b with
  | nil => simp
  | cons x rest ih =>
    cases rest with
    | nil => simp
    | cons y ys =>
      rw [findPreamble_cons] at none
      split at none
      · cases none
      · next miss =>
        rw [List.cons_append, findPreamble_cons, if_neg (by simpa using miss),
          ih (Option.map_eq_none'.mp none), Option.map_map]
        simp only [List.length_cons, Nat.add_sub_cancel, List.drop_succ_cons]
        congr 1

theorem parseAt_short {u : List UInt8} (short : u.length < 8) : parseAt u = (none, u) := by
  unfold parseAt
  split
  · simp only [List.length_cons] at short; omega
  · rfl

/-- A call of `parseAt` that returns a frame or moves the buffer decides the same way
when more bytes follow. -/
theorem parseAt_append {u : List UInt8} (decided : parseAt u ≠ (none, u)) (c : List UInt8) :
    parseAt (u ++ c) = ((parseAt u).1, (parseAt u).2 ++ c) := by
  have long : 8 ≤ u.length := by
    by_contra short
    exact decided (parseAt_short (by omega))
  rcases u with
    _ | ⟨a, _ | ⟨b, _ | ⟨t, _ | ⟨d, _ | ⟨s, _ | ⟨hi, _ | ⟨lo, _ | ⟨hc, body⟩⟩⟩⟩⟩⟩⟩⟩ <;>
    simp only [List.length_cons, List.length_nil] at long
  all_goals try omega
  simp only [parseAt, List.cons_append, List.drop_succ_cons, List.drop_zero] at decided ⊢
  by_cases header : crc8Header [t, d, s, hi, lo] ≠ hc.toNat
  · simp only [if_pos header, List.cons_append]
  simp only [if_neg header] at decided ⊢
  by_cases positive : (hi.toNat <<< 8 ||| lo.toNat) > 0
  · simp only [if_pos positive] at decided ⊢
    by_cases wait : body.length < (hi.toNat <<< 8 ||| lo.toNat) + 2
    · simp [wait] at decided
    rw [if_neg wait] at decided
    rw [if_neg (by simp only [List.length_append]; omega),
      List.take_append_of_le_length (by omega), List.getD_append _ _ _ _ (by omega),
      List.getD_append _ _ _ _ (by omega), List.drop_append_of_le_length (by omega)]
    split_ifs <;> rfl
  · simp only [if_neg positive]

theorem parseFrame_of_none {b : List UInt8} (long : 8 ≤ b.length) (none : findPreamble b = none) :
    parseFrame b = (Option.none, b.drop (b.length - 1)) := by
  simp [parseFrame, none, show ¬b.length < 8 by omega, show 1 < b.length by omega]

theorem parseFrame_of_some {b : List UInt8} {pos : Nat} (long : 8 ≤ b.length)
    (found : findPreamble b = some pos) : parseFrame b = parseAt (b.drop pos) := by
  simp [parseFrame, found, show ¬b.length < 8 by omega]

/-- A buffer without a preamble yields no frame, however long it is. -/
theorem drain_no_preamble {b : List UInt8} (none : findPreamble b = none) : (drain b).1 = [] := by
  by_cases short : b.length < 8
  · rw [drain_of_length_lt short]
  rw [drain_frames, parseFrame_of_none (by omega) none,
    drain_of_length_lt (b := b.drop (b.length - 1)) (by simp; omega)]
  rfl

/-- Bytes in front of `t` where no preamble starts change nothing. -/
theorem drain_skip {x t : List UInt8}
    (skip : findPreamble (x ++ t) = (findPreamble t).map (· + x.length)) :
    (drain (x ++ t)).1 = (drain t).1 := by
  cases found : findPreamble t with
  | none => rw [drain_no_preamble (by simpa [found] using skip), drain_no_preamble found]
  | some q =>
    rw [found, Option.map_some'] at skip
    by_cases short : (x ++ t).length < 8
    · rw [drain_of_length_lt short, drain_of_length_lt (b := t) (by simp at short; omega)]
    have moved : (x ++ t).drop (q + x.length) = t.drop q := by
      rw [Nat.add_comm, List.drop_append]
    by_cases tail : t.length < 8
    · have wait := parseAt_short (u := t.drop q) (by simp; omega)
      rw [drain_frames, parseFrame_of_some (by omega) skip, moved, wait,
        drain_of_length_lt (b := t.drop q) (by simp; omega), drain_of_length_lt tail]
      rfl
    · rw [drain_frames, drain_frames t, parseFrame_of_some (by omega) skip, moved,
        parseFrame_of_some (by omega) found]

/-- One decisive call of `parse_frame` on `b` is also a decisive call on `b ++ c`. -/
theorem drain_append_step {b : List UInt8} (moved : parseFrame b ≠ (none, b)) (c : List UInt8) :
    (drain (b ++ c)).1 = (parseFrame b).1.toList ++ (drain ((parseFrame b).2 ++ c)).1 := by
  have long : 8 ≤ b.length := by
    by_contra short
    exact moved (by simp [parseFrame, show b.length < 8 by omega])
  cases found : findPreamble b with
  | none =>
    rw [parseFrame_of_none long found]
    have split : b ++ c = b.take (b.length - 1) ++ (b.drop (b.length - 1) ++ c) := by
      rw [← List.append_assoc, List.take_append_drop]
    rw [split, drain_skip]
    · rfl
    · rw [← split, findPreamble_append_of_none found, List.length_take,
        Nat.min_eq_left (by omega)]
  | some pos =>
    have inside := findPreamble_lt found
    rw [parseFrame_of_some long found] at moved ⊢
    by_cases wait : parseAt (b.drop pos) = (none, b.drop pos)
    · have split : b ++ c = b.take pos ++ (b.drop pos ++ c) := by
        rw [← List.append_assoc, List.take_append_drop]
      rw [wait, split, drain_skip]
      · rfl
      · rw [← split, findPreamble_append_of_some found, findPreamble_drop found,
          List.length_take, Nat.min_eq_left (by omega)]
        simp
    · rw [drain_frames (b ++ c), parseFrame_of_some (by simp; omega)
        (findPreamble_append_of_some found c), List.drop_append_of_le_length (by omega),
        parseAt_append wait]

/-- Draining `b ++ c` returns the frames of draining `b`, then those of draining what is
left of `b` followed by `c`. -/
theorem drain_append (b c : List UInt8) :
    (drain (b ++ c)).1 = (drain b).1 ++ (drain ((drain b).2 ++ c)).1 := by
  induction b using drain.induct with
  | case1 b fixpoint => rw [drain_of_fixpoint fixpoint]; rfl
  | case2 b moved ih =>
    rw [drain_append_step moved, ih, drain_of_moved moved, List.append_assoc]

theorem runChunks_cons (b chunk : List UInt8) (rest : List (List UInt8)) :
    runChunks b (chunk :: rest) = (drain (b ++ chunk ++ rest.flatten)).1 := by
  induction rest generalizing b chunk with
  | nil => simp [runChunks]
  | cons next rest ih =>
    rw [runChunks, ih, List.flatten_cons, drain_append (b ++ chunk) (next ++ rest.flatten)]
    simp only [List.append_assoc]

/-- Starting from an empty `rx_buffer`, the reads return the frames of their
concatenation drained at once. -/
theorem runChunks_eq_drain (chunks : List (List UInt8)) :
    runChunks [] chunks = (drain chunks.flatten).1 := by
  cases chunks with
  | nil => simp [runChunks, drain_of_length_lt]
  | cons chunk rest => rw [runChunks_cons]; rfl

/-- Whatever two splits of the same byte stream the reads produce, `parse_frame` returns
the same frames in the same order. -/
theorem parseFrame_split_invariant (s : List UInt8) (split₁ split₂ : List (List UInt8))
    (whole₁ : split₁.flatten = s) (whole₂ : split₂.flatten = s) :
    runChunks [] split₁ = runChunks [] split₂ := by
  rw [runChunks_eq_drain, runChunks_eq_drain, whole₁, whole₂]

/-- A Token from 2 to 1 read whole, or in two reads split after its third byte. -/
theorem parseFrame_split_invariant_token :
    [buildFrame 0 1 2 none].flatten = buildFrame 0 1 2 none ∧
      [(buildFrame 0 1 2 none).take 3, (buildFrame 0 1 2 none).drop 3].flatten =
        buildFrame 0 1 2 none ∧
      runChunks [] [buildFrame 0 1 2 none] =
        runChunks [] [(buildFrame 0 1 2 none).take 3, (buildFrame 0 1 2 none).drop 3] := by
  have whole₁ : [buildFrame 0 1 2 none].flatten = buildFrame 0 1 2 none := by simp
  have whole₂ : [(buildFrame 0 1 2 none).take 3, (buildFrame 0 1 2 none).drop 3].flatten =
      buildFrame 0 1 2 none := by simp
  exact ⟨whole₁, whole₂, parseFrame_split_invariant _ _ _ whole₁ whole₂⟩

end MstpLink.Simulator
