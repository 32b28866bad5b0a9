import MstpLink.Framer
import MstpLink.CrcRegister

/-! The header check of `mstp_capture.py`.

The tool computes two header CRCs: `calc_standard_crc`, the Annex G.1 form without
the simulator's masks, and `calc_empirical_crc`, which reverses the bits of each
byte, runs an MSB-first register with `0x81`, and reverses the result. The two are
one function (`calcStandardCrc_eq_calcEmpiricalCrc`): the empirical register is
always the bit reversal of the standard one (`empiricalStep_reverseBits`), so the
`EMP-OK` branch of the capture loop is never taken.

The loop of the tool, `while len(buffer) >= 8`, is `Loop.pass` repeated while it
says to go on. A pass that goes on makes the buffer shorter, so `buffer.length` passes
are enough (`scan_enough_fuel`). A header is classified and counted before the loop
checks that the rest of its frame has arrived, and it stays at the front of the buffer
when it has not: a frame whose payload arrives in a later read is counted once per
read. -/

namespace MstpLink.Capture

/-- One byte of `calc_standard_crc`: the Annex G.1 step, here without masks. -/
def standardStep (crc : Nat) (byte : UInt8) : Nat :=
  Simulator.annexGCombine (Simulator.annexGSpread (crc ^^^ byte.toNat))

/-- `calc_standard_crc(data)`. -/
def calcStandardCrc (data : List UInt8) : Nat := notMask 8 (data.foldl standardStep 0xFF)

/-- `int('{:08b}'.format(n)[::-1], 2)`, on the values below 256 the tool passes it:
the eight low bits of `n` in reverse order. -/
def reverseBits (n : Nat) : Nat := (List.range 8).foldl (fun acc i => Nat.bit (n.testBit i) acc) 0

/-- One pass of the inner `for _ in range(8)` loop of `calc_empirical_crc`. -/
def shiftLeftReduce (crc : Nat) : Nat :=
  if crc &&& 0x80 ≠ 0 then ((crc <<< 1) ^^^ 0x81) &&& 0xFF else (crc <<< 1) &&& 0xFF

/-- One byte of `calc_empirical_crc`. -/
def empiricalStep (crc : Nat) (byte : UInt8) : Nat :=
  shiftLeftReduce^[8] (crc ^^^ reverseBits byte.toNat)

/-- `calc_empirical_crc(data)`. -/
def calcEmpiricalCrc (data : List UInt8) : Nat :=
  reverseBits (data.foldl empiricalStep 0xFF) ^^^ 0xFF

theorem standardStep_lt (crc : Nat) (byte : UInt8) : standardStep crc byte < 256 :=
  Nat.xor_lt_two_pow (n := 8) (Nat.lt_of_le_of_lt Nat.and_le_right (by decide))
    (Nat.lt_of_le_of_lt Nat.and_le_right (by decide))

theorem reverseBits_eq (n : Nat) : reverseBits n =
    Nat.bit (n.testBit 7) (Nat.bit (n.testBit 6) (Nat.bit (n.testBit 5) (Nat.bit (n.testBit 4)
      (Nat.bit (n.testBit 3) (Nat.bit (n.testBit 2) (Nat.bit (n.testBit 1)
        (Nat.bit (n.testBit 0) 0))))))) := rfl

/-- Bit `j` of the reversal is bit `7 - j` of the argument, for `j < 8`. -/
theorem testBit_reverseBits (n j : Nat) :
    (reverseBits n).testBit j = (decide (j < 8) && n.testBit (7 - j)) := by
  rw [reverseBits_eq]
  rcases j with _ | _ | _ | _ | _ | _ | _ | _ | j <;> simp [Nat.testBit_bit_succ]

theorem reverseBits_xor (a b : Nat) : reverseBits (a ^^^ b) = reverseBits a ^^^ reverseBits b := by
  refine Nat.eq_of_testBit_eq fun j => ?_
  by_cases small : j < 8 <;> simp [testBit_reverseBits, Nat.testBit_xor, small]

theorem reverseBits_reverseBits {n : Nat} (below : n < 256) : reverseBits (reverseBits n) = n := by
  refine Nat.eq_of_testBit_eq fun j => ?_
  rw [testBit_reverseBits, testBit_reverseBits]
  by_cases small : j < 8
  · simp [small, show 7 - (7 - j) = j by omega, show 7 - j < 8 by omega]
  · have wide : n < 2 ^ j := lt_of_lt_of_le below (Nat.pow_le_pow_right Nat.two_pos (by omega : 8 ≤ j))
    simp [small, Nat.testBit_eq_false_of_lt wide]

/-- One MSB-first reduction of a reversed byte is the reversal of one LSB-first
reduction by `0x81`, a constant that reads the same reversed. -/
theorem shiftLeftReduce_reverseBits_step {x : Nat} (below : x < 256) :
    shiftLeftReduce (reverseBits x) = reverseBits (shiftRightReduce 0x81 x) := by
  have shifted : reverseBits x <<< 1 &&& 0xFF = reverseBits (x >>> 1) := by
    refine Nat.eq_of_testBit_eq fun j => ?_
    rw [show (0xFF : Nat) = 2 ^ 8 - 1 from rfl, Nat.testBit_and, Nat.testBit_two_pow_sub_one,
      Nat.testBit_shiftLeft, testBit_reverseBits, testBit_reverseBits, Nat.testBit_shiftRight]
    rcases j with _ | j
    · simp [Nat.testBit_lt_two_pow (show x < 2 ^ 8 from below)]
    · by_cases small : j + 1 < 8
      · simp [small, show j < 8 by omega, show 7 - j = 1 + (7 - (j + 1)) by omega]
      · simp [small]
  have top : reverseBits x &&& 0x80 = (x.testBit 0).toNat * 0x80 := by
    rw [show (0x80 : Nat) = 2 ^ 7 from rfl, Nat.and_two_pow, testBit_reverseBits]
    rfl
  have low : x &&& 1 = (x.testBit 0).toNat := by
    rw [Nat.and_one_is_mod, Nat.testBit_zero]
    rcases Nat.mod_two_eq_zero_or_one x with parity | parity <;> simp [parity]
  unfold shiftLeftReduce shiftRightReduce
  rw [top, low]
  cases x.testBit 0
  · rw [if_neg (by decide), if_neg (by decide), shifted]
  · rw [if_pos (by decide), if_pos (by decide), reverseBits_xor, ← shifted,
      Nat.and_xor_distrib_right]
    rfl

theorem iterate_shiftLeftReduce_reverseBits {x : Nat} (below : x < 256) (n : Nat) :
    shiftLeftReduce^[n] (reverseBits x) = reverseBits ((shiftRightReduce 0x81)^[n] x) := by
  induction n generalizing x with
  | zero => rfl
  | succ n ih =>
    rw [Function.iterate_succ_apply, Function.iterate_succ_apply,
      shiftLeftReduce_reverseBits_step below, ih (shiftRightReduce_lt (w := 8) (by decide) below)]

/-- The per-byte simulation: eight MSB-first shifts of a reversed register are the
reversed Annex G.1 step. -/
theorem shiftLeftReduce_reverseBits :
    ∀ t < 256, shiftLeftReduce^[8] (reverseBits t) =
      reverseBits (Simulator.annexGCombine (Simulator.annexGSpread t)) := fun t below => by
  rw [iterate_shiftLeftReduce_reverseBits below, Simulator.annexG_eq_serial t below]

theorem empiricalStep_reverseBits {crc : Nat} (below : crc < 256) (byte : UInt8) :
    empiricalStep (reverseBits crc) byte = reverseBits (standardStep crc byte) := by
  rw [empiricalStep, ← reverseBits_xor,
    shiftLeftReduce_reverseBits _ (Nat.xor_lt_two_pow (n := 8) below (byte_toNat_lt byte))]
  rfl

theorem foldl_standardStep_lt {crc : Nat} (below : crc < 256) (data : List UInt8) :
    data.foldl standardStep crc < 256 := by
  induction data generalizing crc with
  | nil => exact below
  | cons byte rest ih => exact ih (standardStep_lt _ _)

/-- Along any bytes, the empirical register is the reversal of the standard one. -/
theorem foldl_empiricalStep {crc : Nat} (below : crc < 256) (data : List UInt8) :
    data.foldl empiricalStep (reverseBits crc) = reverseBits (data.foldl standardStep crc) := by
  induction data generalizing crc with
  | nil => rfl
  | cons byte rest ih =>
    rw [List.foldl_cons, List.foldl_cons, empiricalStep_reverseBits below, ih (standardStep_lt _ _)]

theorem calcStandardCrc_eq_calcEmpiricalCrc (data : List UInt8) :
    calcStandardCrc data = calcEmpiricalCrc data := by
  have start : reverseBits 0xFF = 0xFF := by decide
  have final : data.foldl standardStep 0xFF < 256 := foldl_standardStep_lt (by decide) data
  rw [calcEmpiricalCrc, ← start, foldl_empiricalStep (by decide), reverseBits_reverseBits final,
    calcStandardCrc, notMask_eq_xor final]
  rfl

/-- The `Result` column. -/
inductive Result
  | STD_OK
  | EMP_OK
  | FAIL
  deriving DecidableEq, Repr

/-- One printed header line: the frame number, the header fields, the received and
both computed CRCs, the result, and `std_match`, from which with the frame number the
`Rate` column is computed. -/
structure Line where
  frameCount : Nat
  frameType : UInt8
  dest : UInt8
  src : UInt8
  length : Nat
  rxCrc : UInt8
  stdCrc : Nat
  empCrc : Nat
  result : Result
  stdMatch : Nat
  deriving DecidableEq, Repr

/-- The variables of the capture loop, and the header lines printed so far. -/
structure Loop where
  buffer : List UInt8
  frameCount : Nat
  stdMatch : Nat
  empMatch : Nat
  lines : List Line
  deriving DecidableEq, Repr

namespace Loop

/-- The variables before the first read. -/
def init : Loop := ⟨[], 0, 0, 0, []⟩

/-- `length = (buffer[5] << 8) | buffer[6]`. -/
def lengthField (buffer : List UInt8) : Nat := (buffer.getD 5 0).toNat <<< 8 ||| (buffer.getD 6 0).toNat

/-- Classify the header at the front of `buffer`: count it, compare its CRC byte with
the standard and then the empirical CRC, and print its line. -/
def classify (c : Loop) (buffer : List UInt8) : Loop :=
  let header := (buffer.drop 2).take 5
  let rxCrc := buffer.getD 7 0
  let stdCrc := calcStandardCrc header
  let empCrc := calcEmpiricalCrc header
  let c := { c with frameCount := c.frameCount + 1 }
  let (c, result) :=
    if rxCrc.toNat = stdCrc then ({ c with stdMatch := c.stdMatch + 1 }, Result.STD_OK)
    else if rxCrc.toNat = empCrc then ({ c with empMatch := c.empMatch + 1 }, Result.EMP_OK)
    else (c, Result.FAIL)
  { c with lines := c.lines ++ [⟨c.frameCount, buffer.getD 2 0, buffer.getD 3 0, buffer.getD 4 0,
    lengthField buffer, rxCrc, stdCrc, empCrc, result, c.stdMatch⟩] }

/-- One pass of the body of `while len(buffer) >= 8`: the variables after it, and
whether the loop goes on (`continue`, or a whole frame dropped) or stops (`break`). -/
def pass (c : Loop) : Loop × Bool :=
  match c.buffer.findIdx? (· == 0x55) with
  | none => ({ c with buffer := [] }, false)
  | some idx =>
    let buffer := c.buffer.drop idx
    if buffer.length < 2 ∨ buffer.getD 1 0 ≠ 0xFF then ({ c with buffer := buffer.drop 1 }, true)
    else if buffer.length < 8 then ({ c with buffer := buffer }, false)
    else
      let c := c.classify buffer
      let length := lengthField buffer
      let frameSize := 8 + (if length > 0 then length + 2 else 0)
      if buffer.length ≥ frameSize then ({ c with buffer := buffer.drop frameSize }, true)
      else ({ c with buffer := buffer }, false)

/-- `while len(buffer) >= 8`, for at most `fuel` passes. -/
def scan : Nat → Loop → Loop
  | 0, c => c
  | fuel + 1, c =>
    if c.buffer.length < 8 then c
    else if c.pass.2 then c.pass.1.scan fuel else c.pass.1

/-- The inner loop run to its end: `buffer.length` passes are enough
(`scan_enough_fuel`). -/
def drain (c : Loop) : Loop := c.scan c.buffer.length

/-- The outer loop over the successive results of `ser.read(256)`. -/
def run (c : Loop) : List (List UInt8) → Loop
  | [] => c
  | data :: rest => ({ c with buffer := c.buffer ++ data }.drain).run rest

theorem findIdx?_lt {buffer : List UInt8} {idx : Nat}
    (found : buffer.findIdx? (· == 0x55) = some idx) : idx < buffer.length :=
  List.findIdx?_eq_some_iff_findIdx_eq.mp found |>.1

/-- What one pass may do to the variables `c`: set the buffer to some `b`, after
classifying one header or not, and go on only when `b` is shorter than the buffer. -/
def PassStep (c : Loop) (r : Loop × Bool) : Prop :=
  ∃ b, (r.2 = true → b.length < c.buffer.length) ∧
    (r.1 = { c with buffer := b } ∨ ∃ header, r.1 = { c.classify header with buffer := b })

theorem pass_spec (c : Loop) : PassStep c c.pass := by
  unfold pass
  split
  · exact ⟨[], nofun, .inl rfl⟩
  · next idx found =>
    have inside := findIdx?_lt found
    refine iteInduction (motive := PassStep c)
      (fun _ => ⟨_, fun _ => by simp only [List.length_drop]; omega, .inl rfl⟩) fun _ => ?_
    refine iteInduction (motive := PassStep c) (fun _ => ⟨_, nofun, .inl rfl⟩) fun _ => ?_
    exact iteInduction (motive := PassStep c)
      (fun _ => ⟨_, fun _ => by simp only [List.length_drop]; omega, .inr ⟨_, rfl⟩⟩)
      (fun _ => ⟨_, nofun, .inr ⟨_, rfl⟩⟩)

/-- A pass that goes on leaves a shorter buffer. -/
theorem pass_shrinks {c : Loop} (goes : c.pass.2 = true) :
    c.pass.1.buffer.length < c.buffer.length := by
  obtain ⟨b, shorter, same | ⟨_, same⟩⟩ := pass_spec c <;> rw [same] <;> exact shorter goes

theorem scan_succ {c : Loop} {fuel : Nat} (enough : c.buffer.length ≤ fuel) :
    c.scan (fuel + 1) = c.scan fuel := by
  induction fuel generalizing c with
  | zero => simp [scan, show c.buffer.length < 8 by omega]
  | succ fuel ih =>
    rw [scan.eq_2 c (fuel + 1), scan.eq_2 c fuel]
    split_ifs with short goes
    · rfl
    · exact ih (by have := pass_shrinks goes; omega)
    · rfl

/-- Any number of passes from `buffer.length` on gives the same result: the loop has
stopped by then. -/
theorem scan_enough_fuel (c : Loop) (fuel : Nat) (enough : c.buffer.length ≤ fuel) :
    c.scan fuel = c.drain := by
  induction fuel, enough using Nat.le_induction with
  | base => rfl
  | succ fuel enough ih => rw [scan_succ enough, ih]

/-- No `EMP-OK` so far: `emp_match` is 0 and no printed line says `EMP-OK`. -/
def NoEmp (c : Loop) : Prop := c.empMatch = 0 ∧ ∀ l ∈ c.lines, l.result ≠ .EMP_OK

theorem classify_noEmp {c : Loop} (none : NoEmp c) (buffer : List UInt8) :
    NoEmp (c.classify buffer) := by
  have same := calcStandardCrc_eq_calcEmpiricalCrc ((buffer.drop 2).take 5)
  simp only [classify, ← same]
  split_ifs
  all_goals
    refine ⟨none.1, fun l mem => ?_⟩
    rcases List.mem_append.mp mem with old | new
    · exact none.2 l old
    · rw [List.mem_singleton.mp new]; nofun

theorem pass_noEmp {c : Loop} (none : NoEmp c) : NoEmp c.pass.1 := by
  obtain ⟨b, -, same | ⟨header, classified⟩⟩ := pass_spec c
  · rw [same]; exact none
  · rw [classified]; exact classify_noEmp none header

theorem scan_noEmp {c : Loop} (none : NoEmp c) (fuel : Nat) : NoEmp (c.scan fuel) := by
  induction fuel generalizing c with
  | zero => exact none
  | succ fuel ih =>
    rw [scan]
    split_ifs
    · exact none
    · exact ih (pass_noEmp none)
    · exact pass_noEmp none

theorem run_noEmp {c : Loop} (none : NoEmp c) (reads : List (List UInt8)) :
    NoEmp (c.run reads) := by
  induction reads generalizing c with
  | nil => exact none
  | cons data rest ih => exact ih (scan_noEmp (c := { c with buffer := c.buffer ++ data }) none _)

end Loop

/-- The standard and the empirical header CRC are one function, so on every stream of
reads the capture loop never prints `EMP-OK` and `emp_match` stays 0. -/
theorem standard_and_empirical_crc_agree (reads : List (List UInt8)) :
    (∀ h, calcStandardCrc h = calcEmpiricalCrc h) ∧ (Loop.init.run reads).empMatch = 0 ∧
      ∀ l ∈ (Loop.init.run reads).lines, l.result ≠ .EMP_OK :=
  ⟨calcStandardCrc_eq_calcEmpiricalCrc,
    Loop.run_noEmp ⟨rfl, fun _ mem => (List.not_mem_nil _ mem).elim⟩ reads⟩

set_option maxRecDepth 4000 in
/-- A frame of `build_frame` with a one-byte payload is counted once when it arrives in
one read, and twice when its last three bytes come in a second read: the first pass
counts the header and keeps it, since the frame is not complete yet. -/
theorem capture_counts_split_frame_twice :
    (Loop.init.run [Simulator.buildFrame 5 1 2 (some [0])]).frameCount = 1 ∧
      (Loop.init.run [(Simulator.buildFrame 5 1 2 (some [0])).take 8,
        (Simulator.buildFrame 5 1 2 (some [0])).drop 8]).frameCount = 2 := by
  decide

end MstpLink.Capture
