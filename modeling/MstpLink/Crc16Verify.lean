import MstpLink.CrcRegister

/-! `scripts/crc16_verify.py`: the MS/TP data CRC-16 checked by its residue.

`check_crc_ccitt_with_crc` runs the CRC-16 register over a payload and its two trailer
bytes and does not complement the result. The register is linear in exclusive or, and
the trailer, sent low byte first, enters it as one 16-bit value (`trailer_register`):
after the trailer the register is sixteen reductions of the payload's register XOR the
trailer. Sixteen reductions are one to one on 16 bits and take `0xFFFF` to `0xF0B8`,
so the residue is `0xF0B8` exactly when the trailer is the complemented register, the
CRC that `build_frame` appends (`residue_iff`). -/

namespace MstpLink.Crc16Verify

/-- `calculate_data_crc_ccitt(data)`. -/
def calculateDataCrcCcitt (data : List UInt8) : Nat :=
  notMask 16 (serialRegister 0x8408 0xFFFF data)

/-- `check_crc_ccitt_with_crc(data_with_crc)`: the register after all bytes, not
complemented. -/
def checkCrcCcittWithCrc (dataWithCrc : List UInt8) : Nat :=
  serialRegister 0x8408 0xFFFF dataWithCrc

/-- Two trailer bytes, low byte first, enter the register as one 16-bit value. -/
theorem trailer_register (poly crc : Nat) (lo hi : UInt8) :
    serialStep poly (serialStep poly crc lo) hi =
      (shiftRightReduce poly)^[16] (crc ^^^ (hi.toNat <<< 8 ^^^ lo.toNat)) := by
  have high : (shiftRightReduce poly)^[8] hi.toNat = (shiftRightReduce poly)^[16] (hi.toNat <<< 8) := by
    rw [show 16 = 8 + 8 from rfl, Function.iterate_add_apply,
      iterate_shiftRightReduce_shiftLeft]
  rw [serialStep, serialStep, iterate_shiftRightReduce_xor, high, ← Function.iterate_add_apply,
    ← iterate_shiftRightReduce_xor]
  congr 1
  ac_rfl

/-- The high byte shifted up and the low byte share no bit. -/
theorem shiftLeft_xor_eq_lor (hi : Nat) {lo : Nat} (small : lo < 2 ^ 8) :
    hi <<< 8 ^^^ lo = hi <<< 8 ||| lo := by
  refine Nat.eq_of_testBit_eq fun i => ?_
  simp only [Nat.testBit_xor, Nat.testBit_or, Nat.testBit_shiftLeft]
  by_cases low : i < 8
  · simp [show ¬i ≥ 8 by omega]
  · have clear := Nat.testBit_lt_two_pow
      (Nat.lt_of_lt_of_le small (Nat.pow_le_pow_right (by decide) (by omega : 8 ≤ i)))
    simp [clear]

set_option maxRecDepth 2000 in
/-- Sixteen reductions of the all-ones register: the residue of Annex G.2. -/
theorem iterate_shiftRightReduce_allOnes : (shiftRightReduce 0x8408)^[16] 0xFFFF = 0xF0B8 := by
  decide

/-- The residue check passes exactly when the trailer, read high byte first, is
`calculate_data_crc_ccitt` of the payload. -/
theorem residue_iff (d : List UInt8) (lo hi : UInt8) :
    checkCrcCcittWithCrc (d ++ [lo, hi]) = 0xF0B8 ↔
      hi.toNat <<< 8 ||| lo.toNat = calculateDataCrcCcitt d := by
  have register : serialRegister 0x8408 0xFFFF d < 2 ^ 16 :=
    serialRegister_lt (by decide) (by decide) (by decide) d
  have trailer : hi.toNat <<< 8 ^^^ lo.toNat < 2 ^ 16 := by
    refine Nat.xor_lt_two_pow ?_ (byte_lt_of_wide (by decide) lo)
    have := byte_toNat_lt hi
    rw [Nat.shiftLeft_eq]
    omega
  rw [checkCrcCcittWithCrc, serialRegister_eq_foldl, List.foldl_append, List.foldl_cons,
    List.foldl_cons, List.foldl_nil, ← serialRegister_eq_foldl, trailer_register,
    ← iterate_shiftRightReduce_allOnes, calculateDataCrcCcitt, notMask_eq_xor register,
    ← shiftLeft_xor_eq_lor _ (byte_toNat_lt lo), show (2 : Nat) ^ 16 - 1 = 0xFFFF from rfl]
  generalize serialRegister 0x8408 0xFFFF d = register at register ⊢
  constructor
  · intro same
    have whole := iterate_shiftRightReduce_injective (w := 16) (by decide) (by decide) 16
      (Nat.xor_lt_two_pow register trailer) (by decide) same
    rw [← whole, Nat.xor_cancel_left]
  · intro value
    rw [value, Nat.xor_cancel_left]

/-- The residue check accepts exactly the trailers that the framers' direct comparison
(`low | high << 8 == crc16_data(payload)`) accepts, and the trailer that `build_frame`
and `build_mstp_frame` append always leaves the residue. -/
theorem residue_check_agrees_with_framers (d : List UInt8) (lo hi : UInt8) :
    (checkCrcCcittWithCrc (d ++ [lo, hi]) = 0xF0B8 ↔
        hi.toNat <<< 8 ||| lo.toNat = calculateDataCrcCcitt d) ∧
      checkCrcCcittWithCrc (d ++ packLE16 (Simulator.crc16Data d)) = 0xF0B8 ∧
      checkCrcCcittWithCrc (d ++ packLE16 (TestSender.crc16Data d)) = 0xF0B8 ∧
      (checkCrcCcittWithCrc (d ++ [lo, hi]) = 0xF0B8 ↔
        lo.toNat ||| hi.toNat <<< 8 = Simulator.crc16Data d) := by
  have appended : ∀ v, v < 65536 → v = calculateDataCrcCcitt d →
      checkCrcCcittWithCrc (d ++ packLE16 v) = 0xF0B8 := fun v fits crc =>
    (residue_iff d (loByte v) (hiByte v)).2 (by rw [hiByte_lor_loByte fits, crc])
  refine ⟨residue_iff d lo hi, appended _ (notMask_lt 16 _) rfl, appended _ (notMask_lt 16 _) rfl,
    ?_⟩
  rw [residue_iff, Nat.or_comm lo.toNat]
  rfl

end MstpLink.Crc16Verify
