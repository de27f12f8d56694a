import Mathlib
import DeployLint.Proofs.Decimal.Rounding

/-!
# Decimal — taking doubles apart and putting them together

Arithmetic on doubles takes its arguments apart, computes, and puts the
result together. What is taken apart is a double (`isDouble_unpack`), a double
put together is the same when it is taken apart again (`unpack_pack`), and a
number with an exponent beyond those of doubles becomes infinite
(`unpack_pack_of_overflow`).
-/

namespace DeployLint

namespace Decimal

open Float.Model (Format UnpackedFloat)
open Float.Model.UnpackedFloat

/-- What a double can be taken apart to. -/
inductive IsDouble : UnpackedFloat → Prop
  | notANumber : IsDouble .notANumber
  | infinity (s : Sign) : IsDouble (.infinity s)
  | zero (s : Sign) : IsDouble (.zero s)
  | finite (s : Sign) {m : Nat} {e : Int} (hpos : 0 < m) (h : Canonical m e) (he : e ≤ 971) :
      IsDouble (.finite s m e hpos)

/-- A bit in front of a word counts as the next power of two. -/
theorem toNat_one_append {w : Nat} (b : BitVec w) : (1#1 ++ b).toNat = 2 ^ w + b.toNat := by
  rw [BitVec.toNat_append, ← Nat.shiftLeft_add_eq_or_of_lt b.isLt]
  simp [Nat.shiftLeft_eq]

theorem exponentBias_eq : ((Format.binary64.exponentBias : Nat) : Int) = 1023 := rfl

theorem significandBits_eq : ((Format.binary64.mantissaBitsWithoutImplicit : Nat) : Int) = 52 := rfl

/-- **What is taken apart is a double.** -/
theorem isDouble_unpack (b : BitVec Format.binary64.numBits) : IsDouble (unpack .binary64 b) := by
  have hsignificand : (unpackMantissa b).toNat < 2 ^ 52 := (unpackMantissa b).isLt
  have hexponent : (unpackExponent b).toNat < 2048 := (unpackExponent b).isLt
  rw [UnpackedFloat.unpack, exponentBias_eq, significandBits_eq]
  split
  -- the last exponent is that of no finite number, the first that of the smallest ones
  · split
    · exact .infinity _
    · exact .notANumber
  · rename_i hfinite
    split
    · rename_i hzero
      split
      · exact .zero _
      · rw [hzero]
        exact .finite _ _ ⟨by omega, by decide, .inl rfl⟩ (by decide)
    · rename_i hnormal
      have hnotLast : (unpackExponent b).toNat ≠ 2047 := fun h =>
        hfinite (BitVec.eq_of_toNat_eq h)
      have hnotFirst : (unpackExponent b).toNat ≠ 0 := fun h =>
        hnormal (BitVec.eq_of_toNat_eq h)
      have hbits : (1#1 ++ unpackMantissa b).toNat = 2 ^ 52 + (unpackMantissa b).toNat :=
        toNat_one_append _
      exact .finite _ _ ⟨by omega, by omega, .inr (by omega)⟩ (by omega)

/-! ## Putting together and taking apart again -/

theorem ofSignificand_of_pos (s : Sign) {m : Nat} (e : Int) (hm : 0 < m) :
    ofSignificand s m e = .finite s m e hm :=
  dif_neg hm.ne'

/-- **What the fields of a double stand for**: the exponents at both ends are
those of the numbers with fewer bits and of what is no finite number. -/
theorem unpack_packComponents (s : Sign) (e : BitVec 11) (m : BitVec 52) :
    unpack .binary64 (packComponents .binary64 s e m) =
      if e = -1#11 then if m = 0#52 then .infinity s else .notANumber
      else if e = 0#11 then ofSignificand s m.toNat (-1074)
      else ofSignificand s (2 ^ 52 + m.toNat) (e.toNat - 1075) := by
  rw [UnpackedFloat.unpack, exponentBias_eq, significandBits_eq]
  simp only [unpackMantissa_packComponents, unpackExponent_packComponents,
    unpackSign_packComponents, Sign.ofBitVec_toBitVec]
  refine ite_congr rfl (fun _ => rfl) fun _ => ite_congr rfl (fun hfew => ?few) fun _ => ?all
  case few =>
    by_cases hzero : m = 0#52
    · rw [hzero]
      rfl
    · have hpos : 0 < m.toNat := Nat.pos_of_ne_zero fun h => hzero (BitVec.eq_of_toNat_eq h)
      rw [ofSignificand_of_pos _ _ hpos, hfew]
      exact dif_neg hzero
  case all =>
    have hbits : (1#1 ++ m).toNat = 2 ^ 52 + m.toNat := toNat_one_append m
    rw [← hbits, ofSignificand_of_pos _ _ (by omega)]
    rfl

/-- **The fields that a number is put together of.** -/
theorem pack_finite (s : Sign) {m : Nat} (e : Int) (hm : 0 < m) :
    pack .binary64 (.finite s m e hm) =
      if 972 ≤ e then packedInfinity .binary64 s
      else if m.log2 = 52 then
        packComponents .binary64 s (BitVec.ofNat 11 (e + 1075).toNat) (BitVec.ofNat 52 m)
      else packComponents .binary64 s 0#11 (BitVec.ofNat 52 m) := by
  have hbiased : (e + (Format.binary64.exponentBias : Int) +
      (Format.binary64.mantissaBitsWithoutImplicit : Int)).toNat = (e + 1075).toNat := by
    rw [exponentBias_eq, significandBits_eq]
    omega
  rw [UnpackedFloat.pack]
  simp only [hbiased]
  refine ite_congr (propext ?_) (fun _ => rfl) fun _ =>
    ite_congr (propext ?_) (fun _ => rfl) fun _ => rfl
  · change 2048 ≤ (e + 1075).toNat + 1 ↔ 972 ≤ e
    omega
  · change m.log2 + 1 = 53 ↔ m.log2 = 52
    omega

/-- **A double is the same when it is put together and taken apart again.** -/
theorem unpack_pack {u : UnpackedFloat} (hu : IsDouble u) :
    unpack .binary64 (pack .binary64 u) = u := by
  cases hu with
  | notANumber => rfl
  | infinity s => cases s <;> rfl
  | zero s => cases s <;> rfl
  | @finite s m e hpos h he =>
    have hlt := h.lt
    have hle := h.le
    have hlog : m.log2 = 52 ↔ 2 ^ 52 ≤ m := by
      rw [Nat.log2_eq_iff hpos.ne']
      exact and_iff_left hlt
    rw [pack_finite, if_neg (by omega)]
    -- a significand with all its bits is stored without the first
    by_cases hfull : 2 ^ 52 ≤ m
    · have hexponent : (BitVec.ofNat 11 (e + 1075).toNat).toNat = (e + 1075).toNat := by
        rw [BitVec.toNat_ofNat]
        omega
      have hbits : 2 ^ 52 + (BitVec.ofNat 52 m).toNat = m := by
        rw [BitVec.toNat_ofNat]
        omega
      have hfinite : BitVec.ofNat 11 (e + 1075).toNat ≠ -1#11 := by
        intro heq
        have hlast : (e + 1075).toNat = 2047 := hexponent ▸ congrArg BitVec.toNat heq
        omega
      have hnormal : BitVec.ofNat 11 (e + 1075).toNat ≠ 0#11 := by
        intro heq
        have hfirst : (e + 1075).toNat = 0 := hexponent ▸ congrArg BitVec.toNat heq
        omega
      have hback : ((e + 1075).toNat : Int) - 1075 = e := by omega
      rw [if_pos (hlog.2 hfull), unpack_packComponents, if_neg hfinite, if_neg hnormal, hbits,
        hexponent, hback, ofSignificand_of_pos]
    · have hbits : (BitVec.ofNat 52 m).toNat = m := by
        rw [BitVec.toNat_ofNat]
        omega
      obtain rfl : e = -1074 := h.full.resolve_right hfull
      rw [if_neg (mt hlog.1 hfull), unpack_packComponents, if_neg (by decide), if_pos rfl, hbits,
        ofSignificand_of_pos]

/-- **A number beyond the doubles is infinite** when it is put together. -/
theorem unpack_pack_of_overflow (s : Sign) {m : Nat} {e : Int} (hm : 0 < m) (he : 972 ≤ e) :
    unpack .binary64 (pack .binary64 (.finite s m e hm)) = .infinity s := by
  rw [pack_finite, if_pos he]
  cases s <;> rfl

end Decimal

end DeployLint
