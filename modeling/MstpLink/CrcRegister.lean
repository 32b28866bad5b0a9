import MstpLink.Crc

/-! The algebra of the bit-serial CRC register.

One reduction `shiftRightReduce poly` is linear in exclusive or
(`shiftRightReduce_xor`) and, when `poly` has the register's top bit set, one to one
on the register (`shiftRightReduce_injective`). So one byte of the loop is one to one
both in the register and in the byte, and two inputs that differ in one byte leave
different registers (`serialRegister_ne_of_differ`). The parallel header CRC of
Annex G.1 is the serial loop with `0x81` (`crc8Header_eq_serial`), so the same holds
for it. -/

namespace MstpLink

/-- Bit `i` after one reduction: bit `i + 1` before, flipped by `poly` when bit 0 was set. -/
theorem testBit_shiftRightReduce (poly c i : Nat) :
    (shiftRightReduce poly c).testBit i = (c.testBit (1 + i) ^^ (c.testBit 0 && poly.testBit i)) := by
  unfold shiftRightReduce
  rw [Nat.and_one_is_mod, Nat.testBit_zero]
  by_cases odd : c % 2 = 1 <;> simp [odd, Nat.testBit_xor, Nat.testBit_shiftRight]

theorem shiftRightReduce_xor (poly a b : Nat) :
    shiftRightReduce poly (a ^^^ b) = shiftRightReduce poly a ^^^ shiftRightReduce poly b := by
  refine Nat.eq_of_testBit_eq fun i => ?_
  simp only [testBit_shiftRightReduce, Nat.testBit_xor]
  cases a.testBit (1 + i) <;> cases b.testBit (1 + i) <;> cases a.testBit 0 <;>
    cases b.testBit 0 <;> cases poly.testBit i <;> rfl

theorem iterate_shiftRightReduce_xor (poly n a b : Nat) :
    (shiftRightReduce poly)^[n] (a ^^^ b) =
      (shiftRightReduce poly)^[n] a ^^^ (shiftRightReduce poly)^[n] b := by
  induction n generalizing a b with
  | zero => rfl
  | succ n ih => rw [Function.iterate_succ_apply, Function.iterate_succ_apply,
      Function.iterate_succ_apply, shiftRightReduce_xor, ih]

/-- A value whose `k` low bits are clear only moves down through `k` reductions. -/
theorem iterate_shiftRightReduce_shiftLeft (poly x k : Nat) :
    (shiftRightReduce poly)^[k] (x <<< k) = x := by
  induction k with
  | zero => rfl
  | succ k ih =>
    have even : x <<< (k + 1) &&& 1 = 0 := by
      rw [Nat.and_one_is_mod, Nat.shiftLeft_succ, Nat.mul_mod_right]
    have half : x <<< (k + 1) >>> 1 = x <<< k := by
      rw [Nat.shiftLeft_succ, Nat.shiftRight_one, Nat.mul_div_cancel_left _ (by decide)]
    rw [Function.iterate_succ_apply, shiftRightReduce, if_neg (by simp [even]), half, ih]

/-- With the top bit of a `w`-bit `poly` set, one reduction is one to one on `w` bits:
bit `w - 1` of the result tells whether `poly` was added. -/
theorem shiftRightReduce_injective {w poly a b : Nat} (top : poly.testBit (w - 1) = true)
    (ha : a < 2 ^ w) (hb : b < 2 ^ w) (same : shiftRightReduce poly a = shiftRightReduce poly b) :
    a = b := by
  rcases Nat.eq_zero_or_pos w with rfl | wide
  · omega
  have bit := fun i => congrArg (Nat.testBit · i) same
  simp only [testBit_shiftRightReduce] at bit
  have low : a.testBit 0 = b.testBit 0 := by
    have edge := bit (w - 1)
    rw [show 1 + (w - 1) = w by omega, Nat.testBit_lt_two_pow ha, Nat.testBit_lt_two_pow hb,
      top] at edge
    simpa using edge
  refine Nat.eq_of_testBit_eq fun i => ?_
  cases i with
  | zero => exact low
  | succ i =>
    have above := bit i
    rw [low] at above
    rw [Nat.add_comm]
    simpa using above

theorem iterate_shiftRightReduce_injective {w poly a b : Nat} (top : poly.testBit (w - 1) = true)
    (hp : poly < 2 ^ w) (n : Nat) (ha : a < 2 ^ w) (hb : b < 2 ^ w)
    (same : (shiftRightReduce poly)^[n] a = (shiftRightReduce poly)^[n] b) : a = b := by
  induction n generalizing a b with
  | zero => exact same
  | succ n ih =>
    rw [Function.iterate_succ_apply, Function.iterate_succ_apply] at same
    exact shiftRightReduce_injective top ha hb
      (ih (shiftRightReduce_lt hp ha) (shiftRightReduce_lt hp hb) same)

/-- One byte of the serial loop: `crc ^= byte`, then eight reductions. -/
def serialStep (poly crc : Nat) (byte : UInt8) : Nat :=
  (shiftRightReduce poly)^[8] (crc ^^^ byte.toNat)

theorem serialRegister_eq_foldl (poly init : Nat) (data : List UInt8) :
    serialRegister poly init data = data.foldl (serialStep poly) init := rfl

theorem byte_lt_of_wide {w : Nat} (wide : 8 ≤ w) (byte : UInt8) : byte.toNat < 2 ^ w :=
  Nat.lt_of_lt_of_le (byte_toNat_lt byte) (Nat.pow_le_pow_right (by decide) wide)

theorem notMask_injective {w a b : Nat} (ha : a < 2 ^ w) (hb : b < 2 ^ w)
    (same : notMask w a = notMask w b) : a = b := by
  unfold notMask at same
  rw [Nat.mod_eq_of_lt ha, Nat.mod_eq_of_lt hb] at same
  omega

section Step

variable {w poly : Nat}

theorem serialStep_lt (hp : poly < 2 ^ w) (wide : 8 ≤ w) {crc : Nat} (hc : crc < 2 ^ w)
    (byte : UInt8) : serialStep poly crc byte < 2 ^ w :=
  iterate_shiftRightReduce_lt hp 8 (Nat.xor_lt_two_pow hc (byte_lt_of_wide wide byte))

/-- One byte is one to one in the register. -/
theorem serialStep_injective_register (top : poly.testBit (w - 1) = true) (hp : poly < 2 ^ w)
    (wide : 8 ≤ w) {a b : Nat} (ha : a < 2 ^ w) (hb : b < 2 ^ w) (byte : UInt8)
    (same : serialStep poly a byte = serialStep poly b byte) : a = b :=
  Nat.xor_left_injective (iterate_shiftRightReduce_injective top hp 8
    (Nat.xor_lt_two_pow ha (byte_lt_of_wide wide byte))
    (Nat.xor_lt_two_pow hb (byte_lt_of_wide wide byte)) same)

/-- One byte is one to one in the byte. -/
theorem serialStep_injective_byte (top : poly.testBit (w - 1) = true) (hp : poly < 2 ^ w)
    (wide : 8 ≤ w) {crc : Nat} (hc : crc < 2 ^ w) {x y : UInt8}
    (same : serialStep poly crc x = serialStep poly crc y) : x = y :=
  UInt8.toNat.inj (Nat.xor_right_injective (iterate_shiftRightReduce_injective top hp 8
    (Nat.xor_lt_two_pow hc (byte_lt_of_wide wide x))
    (Nat.xor_lt_two_pow hc (byte_lt_of_wide wide y)) same))

/-- Registers that differ stay different along the same bytes. -/
theorem foldl_serialStep_ne (top : poly.testBit (w - 1) = true) (hp : poly < 2 ^ w)
    (wide : 8 ≤ w) {a b : Nat} (ha : a < 2 ^ w) (hb : b < 2 ^ w) (ne : a ≠ b)
    (s : List UInt8) : s.foldl (serialStep poly) a ≠ s.foldl (serialStep poly) b := by
  induction s generalizing a b with
  | nil => exact ne
  | cons byte rest ih =>
    exact ih (serialStep_lt hp wide ha byte) (serialStep_lt hp wide hb byte)
      fun same => ne (serialStep_injective_register top hp wide ha hb byte same)

/-- Two inputs that differ in one byte leave different registers. -/
theorem serialRegister_ne_of_differ (top : poly.testBit (w - 1) = true) (hp : poly < 2 ^ w)
    (wide : 8 ≤ w) {init : Nat} (hi : init < 2 ^ w) (p s : List UInt8) {x y : UInt8}
    (ne : x ≠ y) : serialRegister poly init (p ++ x :: s) ≠ serialRegister poly init (p ++ y :: s) := by
  have before := serialRegister_lt wide hp hi p
  rw [serialRegister_eq_foldl, serialRegister_eq_foldl, List.foldl_append, List.foldl_append,
    List.foldl_cons, List.foldl_cons]
  exact foldl_serialStep_ne top hp wide (serialStep_lt hp wide before x)
    (serialStep_lt hp wide before y) (fun same => ne (serialStep_injective_byte top hp wide before same)) s

end Step

end MstpLink

namespace MstpLink

theorem shiftLeft_xor (a b k : Nat) : (a ^^^ b) <<< k = a <<< k ^^^ b <<< k :=
  Nat.eq_of_testBit_eq fun i => by
    simp only [Nat.testBit_shiftLeft, Nat.testBit_xor, Bool.and_xor_distrib_left]

theorem shiftRight_xor (a b k : Nat) : (a ^^^ b) >>> k = a >>> k ^^^ b >>> k :=
  Nat.eq_of_testBit_eq fun i => by simp only [Nat.testBit_shiftRight, Nat.testBit_xor]

theorem shiftRight_and (a b k : Nat) : (a &&& b) >>> k = a >>> k &&& b >>> k :=
  Nat.eq_of_testBit_eq fun i => by simp only [Nat.testBit_shiftRight, Nat.testBit_and]

/-- A byte is its high nibble shifted up, exclusive-or its low nibble. -/
theorem xor_nibbles (t : Nat) : t = (t >>> 4) <<< 4 ^^^ t % 2 ^ 4 := by
  refine Nat.eq_of_testBit_eq fun i => ?_
  simp only [Nat.testBit_xor, Nat.testBit_shiftLeft, Nat.testBit_shiftRight, Nat.testBit_mod_two_pow]
  by_cases low : i < 4
  · simp [low, show ¬i ≥ 4 by omega]
  · simp [low, show i ≥ 4 by omega, show 4 + (i - 4) = i by omega]

end MstpLink

namespace MstpLink.Simulator

theorem annexGSpread_xor (a b : Nat) : annexGSpread (a ^^^ b) = annexGSpread a ^^^ annexGSpread b := by
  simp only [annexGSpread, shiftLeft_xor]
  ac_rfl

theorem annexGCombine_xor (a b : Nat) : annexGCombine (a ^^^ b) = annexGCombine a ^^^ annexGCombine b := by
  simp only [annexGCombine, Nat.and_xor_distrib_right, shiftRight_xor]
  ac_rfl

theorem annexGCombine_lt (temp : Nat) : annexGCombine temp < 256 :=
  Nat.xor_lt_two_pow (n := 8) (Nat.lt_of_le_of_lt Nat.and_le_right (by decide))
    (Nat.lt_of_le_of_lt Nat.and_le_right (by decide))

/-- The combination reads bits 1 to 8 only, so the `& 0xFFFF` before it changes nothing. -/
theorem annexGCombine_and_mask (temp : Nat) : annexGCombine (temp &&& 0xFFFF) = annexGCombine temp := by
  rw [annexGCombine, annexGCombine, shiftRight_and, Nat.and_assoc, Nat.and_assoc]
  rfl

/-- On every byte value, the Annex G.1 table of `crc8_header` is eight serial
reductions by `0x81`, the reflected constant of X^8 + X^7 + 1. Both sides are linear in
exclusive or, so the sixteen values of each nibble decide it. -/
theorem annexG_eq_serial :
    ∀ t < 256, annexGCombine (annexGSpread t) = (shiftRightReduce 0x81)^[8] t := by
  have low : ∀ l < 16, annexGCombine (annexGSpread l) = (shiftRightReduce 0x81)^[8] l := by decide
  have high : ∀ h < 16, annexGCombine (annexGSpread (h <<< 4)) =
      (shiftRightReduce 0x81)^[8] (h <<< 4) := by decide
  intro t below
  have top : t >>> 4 < 16 := by rw [Nat.shiftRight_eq_div_pow]; exact Nat.div_lt_of_lt_mul below
  rw [xor_nibbles t, annexGSpread_xor, annexGCombine_xor, iterate_shiftRightReduce_xor, high _ top,
    low (t % 2 ^ 4) (Nat.mod_lt _ (by decide))]

theorem crc8HeaderStep_eq_serialStep {crc : Nat} (below : crc < 256) (byte : UInt8) :
    crc8HeaderStep crc byte = serialStep 0x81 crc byte := by
  have fits : crc ^^^ byte.toNat < 256 := Nat.xor_lt_two_pow (n := 8) below (byte_toNat_lt byte)
  have byteMask : ∀ {v : Nat}, v < 256 → v &&& 0xFF = v := fun fits => by
    rw [show (0xFF : Nat) = 2 ^ 8 - 1 from rfl, Nat.and_pow_two_sub_one_eq_mod, Nat.mod_eq_of_lt fits]
  rw [crc8HeaderStep, byteMask fits, annexGCombine_and_mask, byteMask (annexGCombine_lt _),
    annexG_eq_serial _ fits, serialStep]

/-- `crc8_header` is the bit-serial loop with `0x81`, complemented. -/
theorem crc8Header_eq_serial (data : List UInt8) :
    crc8Header data = notMask 8 (serialRegister 0x81 0xFF data) := by
  have same : ∀ crc < 256, data.foldl crc8HeaderStep crc = data.foldl (serialStep 0x81) crc := by
    induction data with
    | nil => intro crc _; rfl
    | cons byte rest ih =>
      intro crc below
      rw [List.foldl_cons, List.foldl_cons, crc8HeaderStep_eq_serialStep below,
        ih _ (serialStep_lt (w := 8) (by decide) (le_refl 8) below byte)]
  rw [crc8Header, same 0xFF (by decide), serialRegister_eq_foldl]

end MstpLink.Simulator

namespace MstpLink

/-- Two lists of one length that differ at position `i` and nowhere else are one prefix,
two different bytes, and one suffix. -/
theorem exists_split_of_differ {a b : List UInt8} (same_length : a.length = b.length) {i : Nat}
    (differs : a[i]? ≠ b[i]?) (agrees : ∀ j, j ≠ i → a[j]? = b[j]?) :
    ∃ p s x y, x ≠ y ∧ a = p ++ x :: s ∧ b = p ++ y :: s := by
  have inside : i < a.length := by
    by_contra outside
    exact differs (by rw [List.getElem?_eq_none (by omega), List.getElem?_eq_none (by omega)])
  have prefix_eq : b.take i = a.take i := List.ext_getElem? fun j => by
    simp only [List.getElem?_take]
    split
    · exact (agrees j (by omega)).symm
    · rfl
  have suffix_eq : b.drop (i + 1) = a.drop (i + 1) := List.ext_getElem? fun j => by
    simp only [List.getElem?_drop]
    exact (agrees (i + 1 + j) (by omega)).symm
  have inside_b : i < b.length := same_length ▸ inside
  refine ⟨a.take i, a.drop (i + 1), a[i], b[i], fun same => differs ?_, ?_, ?_⟩
  · rw [List.getElem?_eq_getElem inside, List.getElem?_eq_getElem inside_b, same]
  · rw [← List.drop_eq_getElem_cons inside, List.take_append_drop]
  · rw [← prefix_eq, ← suffix_eq, ← List.drop_eq_getElem_cons inside_b, List.take_append_drop]

/-- Inputs of one length that differ in exactly one position have different header and
data CRCs, in the simulator's and in the sniffer's forms. -/
theorem crc_detects_one_changed_byte (a b : List UInt8) (same_length : a.length = b.length)
    (i : Nat) (differs : a[i]? ≠ b[i]?) (agrees : ∀ j, j ≠ i → a[j]? = b[j]?) :
    Simulator.crc8Header a ≠ Simulator.crc8Header b ∧
      Simulator.crc16Data a ≠ Simulator.crc16Data b ∧
      Sniffer.crc8 a ≠ Sniffer.crc8 b ∧ Sniffer.crc16 a ≠ Sniffer.crc16 b := by
  obtain ⟨p, s, x, y, ne, rfl, rfl⟩ := exists_split_of_differ same_length differs agrees
  have header : serialRegister 0x81 0xFF (p ++ x :: s) ≠ serialRegister 0x81 0xFF (p ++ y :: s) :=
    serialRegister_ne_of_differ (w := 8) (by decide) (by decide) (le_refl 8) (by decide) p s ne
  have data : serialRegister 0x8408 0xFFFF (p ++ x :: s) ≠
      serialRegister 0x8408 0xFFFF (p ++ y :: s) :=
    serialRegister_ne_of_differ (w := 16) (by decide) (by decide) (by decide) (by decide) p s ne
  have sniffed : serialRegister 0x8C 0xFF (p ++ x :: s) ≠ serialRegister 0x8C 0xFF (p ++ y :: s) :=
    serialRegister_ne_of_differ (w := 8) (by decide) (by decide) (le_refl 8) (by decide) p s ne
  refine ⟨fun same => header ?_, fun same => data ?_, fun same => sniffed ?_,
    fun same => data ?_⟩
  · rw [Simulator.crc8Header_eq_serial, Simulator.crc8Header_eq_serial] at same
    exact notMask_injective (serialRegister_lt (le_refl 8) (by decide) (by decide) _)
      (serialRegister_lt (le_refl 8) (by decide) (by decide) _) same
  · exact notMask_injective (serialRegister_lt (by decide) (by decide) (by decide) _)
      (serialRegister_lt (by decide) (by decide) (by decide) _) same
  · exact Nat.xor_left_injective same
  · exact Nat.xor_left_injective same

/-- The header `01 03 06 00 00` of a Poll-For-Master from 6 to 3 and the same header from 7:
one byte changed in the middle of five. -/
theorem crc_detects_one_changed_byte_poll_source :
    ([1, 3, 6, 0, 0] : List UInt8).length = ([1, 3, 7, 0, 0] : List UInt8).length ∧
      ([1, 3, 6, 0, 0] : List UInt8)[2]? ≠ ([1, 3, 7, 0, 0] : List UInt8)[2]? ∧
      (∀ j, j ≠ 2 → ([1, 3, 6, 0, 0] : List UInt8)[j]? = ([1, 3, 7, 0, 0] : List UInt8)[j]?) ∧
      Simulator.crc8Header [1, 3, 6, 0, 0] ≠ Simulator.crc8Header [1, 3, 7, 0, 0] ∧
      Simulator.crc16Data [1, 3, 6, 0, 0] ≠ Simulator.crc16Data [1, 3, 7, 0, 0] ∧
      Sniffer.crc8 [1, 3, 6, 0, 0] ≠ Sniffer.crc8 [1, 3, 7, 0, 0] ∧
      Sniffer.crc16 [1, 3, 6, 0, 0] ≠ Sniffer.crc16 [1, 3, 7, 0, 0] := by
  have agrees : ∀ j, j ≠ 2 → ([1, 3, 6, 0, 0] : List UInt8)[j]? = ([1, 3, 7, 0, 0] : List UInt8)[j]?
    | 0, _ | 1, _ | 3, _ | 4, _ | _ + 5, _ => rfl
    | 2, other => absurd rfl other
  exact ⟨rfl, by decide, agrees, crc_detects_one_changed_byte _ _ rfl 2 (by decide) agrees⟩

end MstpLink
