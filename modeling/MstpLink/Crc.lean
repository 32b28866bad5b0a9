import Mathlib.Data.Nat.Bitwise
import Mathlib.Logic.Function.Iterate

/-! The CRC engine of the MS/TP scripts.

Every script re-types its own header CRC-8 and data CRC-16. The simulator
(`scripts/mstp_simulator.py`) computes the header CRC with the parallel form of
ASHRAE 135 Annex G.1; the sniffer and the test sender use a bit-serial loop with
the constant `0x8C`. The data CRC-16 is the same bit-serial loop with `0x8408`
everywhere. Python integers are modelled as `Nat`, with the masks the scripts
write, and byte sequences as `List UInt8`. -/

namespace MstpLink

/-- Python's `(~x) & (2**w - 1)` on a non-negative `x`: the low `w` bits of `-x - 1`. -/
def notMask (w x : Nat) : Nat := 2 ^ w - 1 - x % 2 ^ w

/-- `v & 0xFF` as a byte. -/
def loByte (v : Nat) : UInt8 := UInt8.ofNat (v &&& 0xFF)

/-- `(v >> 8) & 0xFF` as a byte. -/
def hiByte (v : Nat) : UInt8 := UInt8.ofNat ((v >>> 8) &&& 0xFF)

/-- `struct.pack('<H', v)` for `v < 2**16`: the low byte first. -/
def packLE16 (v : Nat) : List UInt8 := [loByte v, hiByte v]

/-- One pass of `if crc & 1: crc = (crc >> 1) ^ poly` / `else: crc >>= 1`. -/
def shiftRightReduce (poly crc : Nat) : Nat :=
  if crc &&& 1 ≠ 0 then (crc >>> 1) ^^^ poly else crc >>> 1

/-- The register of the bit-serial CRC loops: per byte `crc ^= byte`, then
`for _ in range(8)` reductions by `poly`. -/
def serialRegister (poly init : Nat) (data : List UInt8) : Nat :=
  data.foldl (fun crc byte => (shiftRightReduce poly)^[8] (crc ^^^ byte.toNat)) init

theorem notMask_lt (w x : Nat) : notMask w x < 2 ^ w := by
  have := Nat.two_pow_pos w
  unfold notMask
  omega

theorem xor_mask_of_lt {w x : Nat} (h : x < 2 ^ w) : x ^^^ (2 ^ w - 1) = 2 ^ w - 1 - x := by
  have flip := congrArg BitVec.toNat (BitVec.xor_allOnes (x := BitVec.ofNat w x))
  rwa [BitVec.toNat_xor, BitVec.toNat_not, BitVec.toNat_allOnes, BitVec.toNat_ofNat,
    Nat.mod_eq_of_lt h] at flip

/-- On a register that fits, `crc ^ mask` is the masked complement. -/
theorem notMask_eq_xor {w x : Nat} (h : x < 2 ^ w) : notMask w x = x ^^^ (2 ^ w - 1) := by
  rw [xor_mask_of_lt h, notMask, Nat.mod_eq_of_lt h]

theorem byte_toNat_lt (b : UInt8) : b.toNat < 2 ^ 8 := b.toBitVec.isLt

@[simp] theorem toNat_ofNat_of_lt_256 {v : Nat} (h : v < 256) : (UInt8.ofNat v).toNat = v :=
  UInt8.toNat_ofNat_of_lt h

/-- The two bytes `(v >> 8) & 0xFF` and `v & 0xFF`, read back high byte first as the header
length is (`(hi << 8) | lo`): the low 16 bits of `v`, whatever its size. -/
theorem hiByte_lor_loByte_mod (v : Nat) : (hiByte v).toNat <<< 8 ||| (loByte v).toNat = v % 65536 := by
  have lo : v &&& 0xFF = v % 256 := Nat.and_pow_two_sub_one_eq_mod v 8
  have hi : (v >>> 8) &&& 0xFF = v / 256 % 256 := by
    rw [Nat.shiftRight_eq_div_pow]; exact Nat.and_pow_two_sub_one_eq_mod _ 8
  rw [hiByte, loByte, lo, hi, toNat_ofNat_of_lt_256 (by omega),
    toNat_ofNat_of_lt_256 (by omega), Nat.shiftLeft_eq, Nat.mul_comm,
    ← Nat.mul_add_lt_is_or (by omega)]
  omega

/-- The two bytes of a 16-bit value, read back high byte first, are the value. -/
theorem hiByte_lor_loByte {v : Nat} (h : v < 65536) :
    (hiByte v).toNat <<< 8 ||| (loByte v).toNat = v := by
  rw [hiByte_lor_loByte_mod, Nat.mod_eq_of_lt h]

/-- The same two bytes read low byte first, as the data CRC trailer is
(`low | high << 8`). -/
theorem loByte_lor_hiByte {v : Nat} (h : v < 65536) :
    (loByte v).toNat ||| (hiByte v).toNat <<< 8 = v := by
  rw [Nat.or_comm, hiByte_lor_loByte h]

theorem shiftRightReduce_lt {w poly crc : Nat} (hp : poly < 2 ^ w) (hc : crc < 2 ^ w) :
    shiftRightReduce poly crc < 2 ^ w := by
  have half : crc >>> 1 < 2 ^ w := by rw [Nat.shiftRight_eq_div_pow]; omega
  unfold shiftRightReduce
  split
  · exact Nat.xor_lt_two_pow half hp
  · exact half

theorem iterate_shiftRightReduce_lt {w poly : Nat} (hp : poly < 2 ^ w) (n : Nat) :
    ∀ {crc}, crc < 2 ^ w → (shiftRightReduce poly)^[n] crc < 2 ^ w := by
  induction n with
  | zero => exact id
  | succ n ih => exact fun hc => ih (shiftRightReduce_lt hp hc)

/-- A register of `w ≥ 8` bits never overflows the bit-serial loop. -/
theorem serialRegister_lt {w poly init : Nat} (wide : 8 ≤ w) (hp : poly < 2 ^ w)
    (hi : init < 2 ^ w) (data : List UInt8) : serialRegister poly init data < 2 ^ w := by
  induction data generalizing init with
  | nil => exact hi
  | cons byte rest ih =>
    apply ih
    have hb : byte.toNat < 2 ^ w :=
      Nat.lt_of_lt_of_le (byte_toNat_lt byte) (Nat.pow_le_pow_right (by decide) wide)
    exact iterate_shiftRightReduce_lt hp 8 (Nat.xor_lt_two_pow hi hb)

end MstpLink

namespace MstpLink.Simulator

/-- `temp ^ (temp << 1) ^ ... ^ (temp << 7)`: the exclusive-or table of Annex G.1. -/
def annexGSpread (temp : Nat) : Nat :=
  temp ^^^ (temp <<< 1) ^^^ (temp <<< 2) ^^^ (temp <<< 3) ^^^ (temp <<< 4) ^^^
    (temp <<< 5) ^^^ (temp <<< 6) ^^^ (temp <<< 7)

/-- `(temp & 0xFE) ^ ((temp >> 8) & 1)`: the bits shifted out of the left end. -/
def annexGCombine (temp : Nat) : Nat := (temp &&& 0xFE) ^^^ ((temp >>> 8) &&& 1)

/-- One byte of `crc8_header`, with the masks the simulator writes. -/
def crc8HeaderStep (crc : Nat) (byte : UInt8) : Nat :=
  annexGCombine (annexGSpread ((crc ^^^ byte.toNat) &&& 0xFF) &&& 0xFFFF) &&& 0xFF

/-- `crc8_header`: the MS/TP header CRC-8 of Annex G.1 (polynomial X^8 + X^7 + 1). -/
def crc8Header (data : List UInt8) : Nat := notMask 8 (data.foldl crc8HeaderStep 0xFF)

/-- `crc16_data`: the data CRC-16 of Annex G.2 (CRC-CCITT, reflected constant `0x8408`). -/
def crc16Data (data : List UInt8) : Nat := notMask 16 (serialRegister 0x8408 0xFFFF data)

theorem crc8Header_lt (data : List UInt8) : crc8Header data < 256 := notMask_lt 8 _

theorem crc16Data_lt (data : List UInt8) : crc16Data data < 65536 := notMask_lt 16 _

end MstpLink.Simulator

namespace MstpLink.Sniffer

/-- `crc8` of `mstp_sniffer.py`: the bit-serial loop with `0x8C`, then `crc ^ 0xFF`. -/
def crc8 (data : List UInt8) : Nat := serialRegister 0x8C 0xFF data ^^^ 0xFF

/-- `crc16` of `mstp_sniffer.py`: the bit-serial loop with `0x8408`, then `crc ^ 0xFFFF`. -/
def crc16 (data : List UInt8) : Nat := serialRegister 0x8408 0xFFFF data ^^^ 0xFFFF

end MstpLink.Sniffer

namespace MstpLink.TestSender

/-- `crc8_header` of `mstp_test_sender.py`: the sniffer's loop, then `(~crc) & 0xFF`. -/
def crc8Header (data : List UInt8) : Nat := notMask 8 (serialRegister 0x8C 0xFF data)

/-- `crc16_data` of `mstp_test_sender.py`, the same text as the simulator's. -/
def crc16Data (data : List UInt8) : Nat := notMask 16 (serialRegister 0x8408 0xFFFF data)

/-- The test sender builds headers with the CRC the sniffer checks. -/
theorem crc8Header_eq_sniffer_crc8 (data : List UInt8) :
    crc8Header data = Sniffer.crc8 data :=
  notMask_eq_xor (serialRegister_lt (le_refl 8) (by decide) (by decide) data)

set_option maxRecDepth 2000 in
/-- The bit-serial header CRC-8 of the sniffer and the test sender and the Annex G.1
header CRC-8 of the simulator disagree on the header `01 03 06 00 00`
(Poll-For-Master from 6 to 3), which the bus carried with `B1`. -/
theorem serial_crc8_differs_from_annexG :
    Sniffer.crc8 [0x01, 0x03, 0x06, 0x00, 0x00] = 0xA2 ∧
      crc8Header [0x01, 0x03, 0x06, 0x00, 0x00] = 0xA2 ∧
      Simulator.crc8Header [0x01, 0x03, 0x06, 0x00, 0x00] = 0xB1 := by
  decide

end MstpLink.TestSender
