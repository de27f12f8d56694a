import Mathlib.Tactic.Linarith
import Mathlib.Tactic.Ring

/-!
# Decimal — rounding to a double

The least positive double is a grain, and every double is a whole number of
grains (`grains`). So is every sum of doubles, before it is rounded. Rounding
takes a number of grains to that of a double, and what matters of it for sums
is that it passes no double by: a double that is no greater than the exact
number is no greater than the rounded one, and one that is no smaller is no
smaller (`round_brackets`).
-/

namespace DeployLint

namespace Decimal

open Float.Model (Format UnpackedFloat totalExponent)
open Float.Model.UnpackedFloat

/-! ## Grains -/

/-- The grains of `m * 2 ^ e`, for an exponent that is not below that of a grain. -/
def grains (m : Nat) (e : Int) : Nat := m * 2 ^ (e + 1074).toNat

/-- A significand and an exponent as a double has them: at most fifty-three
bits, and as many as that where the exponent is not the least. -/
structure Canonical (m : Nat) (e : Int) : Prop where
  lt : m < 2 ^ 53
  le : -1074 ≤ e
  full : e = -1074 ∨ 2 ^ 52 ≤ m

theorem grains_pos {m : Nat} {e : Int} (hm : 0 < m) : 0 < grains m e :=
  Nat.mul_pos hm (Nat.two_pow_pos _)

theorem zero_grains (e : Int) : grains 0 e = 0 := Nat.zero_mul _

/-- A significand with an exponent so much smaller is shifted to the left. -/
theorem grains_shift {e f : Int} (m : Nat) (he : -1074 ≤ e) (hef : e ≤ f) :
    grains m f = grains (m * 2 ^ (f - e).toNat) e := by
  have hexponent : (f + 1074).toNat = (f - e).toNat + (e + 1074).toNat := by omega
  rw [grains, grains, hexponent, Nat.pow_add, Nat.mul_assoc]

/-- At one exponent, more grains are a greater significand. -/
theorem grains_le_grains_iff {m n : Nat} {e : Int} : grains m e ≤ grains n e ↔ m ≤ n :=
  Nat.mul_le_mul_right_iff (Nat.two_pow_pos _)

theorem grains_lt_grains_iff {m n : Nat} {e : Int} : grains m e < grains n e ↔ m < n :=
  Nat.mul_lt_mul_right (Nat.two_pow_pos _)

/-- A full significand has more grains than any with a smaller exponent. -/
theorem grains_lt_of_exponent_lt {m n : Nat} {e f : Int} (hm : m < 2 ^ 53) (he : -1074 ≤ e)
    (hn : 2 ^ 52 ≤ n) (h : e < f) : grains m e < grains n f := by
  have hshift : 2 ^ 1 ≤ 2 ^ (f - e).toNat := Nat.pow_le_pow_right (by decide) (by omega)
  have hfull : 2 ^ 52 * 2 ^ 1 ≤ n * 2 ^ (f - e).toNat := Nat.mul_le_mul hn hshift
  rw [grains_shift n he h.le, grains_lt_grains_iff]
  omega

/-! ## Shifting to the right -/

/-- What a shift to the right leaves of a number, and that it leaves nothing
behind where it divides the number. -/
theorem shiftRight_eq (m n : Nat) :
    ((⟨m, false, false⟩ : ExtendedMantissa) >>> n).mantissa = m / 2 ^ n ∧
      (2 ^ n ∣ m → ((⟨m, false, false⟩ : ExtendedMantissa) >>> n).roundBit = false ∧
        ((⟨m, false, false⟩ : ExtendedMantissa) >>> n).stickyBit = false) := by
  induction n with
  | zero => exact ⟨(Nat.div_one m).symm, fun _ => ⟨rfl, rfl⟩⟩
  | succ n ih =>
    obtain ⟨hmantissa, hexact⟩ := ih
    have hstep : (⟨m, false, false⟩ : ExtendedMantissa) >>> (n + 1) =
        ((⟨m, false, false⟩ : ExtendedMantissa) >>> n).shiftRightOne := rfl
    rw [hstep]
    refine ⟨?_, fun hdvd => ?_⟩
    · rw [ExtendedMantissa.shiftRightOne, hmantissa, Nat.div_div_eq_div_mul, Nat.pow_succ]
    · obtain ⟨hround, hsticky⟩ := hexact ((Nat.pow_dvd_pow 2 (Nat.le_succ n)).trans hdvd)
      obtain ⟨k, rfl⟩ := hdvd
      have heven : 2 ^ (n + 1) * k / 2 ^ n % 2 = 0 := by
        rw [Nat.pow_succ, Nat.mul_assoc, Nat.mul_div_cancel_left _ (Nat.two_pow_pos n),
          Nat.mul_mod_right]
      simp [ExtendedMantissa.shiftRightOne, hmantissa, heven, hround, hsticky]

theorem mantissa_le_roundedMantissa (em : ExtendedMantissa) :
    em.mantissa ≤ em.roundedMantissa ∧ em.roundedMantissa ≤ em.mantissa + 1 := by
  obtain ⟨m, roundBit, stickyBit⟩ := em
  cases roundBit <;> cases stickyBit <;>
    simp [ExtendedMantissa.roundedMantissa, ExtendedMantissa.accuracy,
      Accuracy.roundToNearestEven]
  omega

/-- A number shifted to the right and rounded to a whole one. -/
def roundedShift (m n : Nat) : Nat :=
  ((⟨m, false, false⟩ : ExtendedMantissa) >>> n).roundedMantissa

/-- **Rounding passes no whole number by**, upward. -/
theorem le_roundedShift {k m n : Nat} (h : k * 2 ^ n ≤ m) : k ≤ roundedShift m n := by
  have hfloor : k ≤ m / 2 ^ n := (Nat.le_div_iff_mul_le (Nat.two_pow_pos n)).2 h
  rw [← (shiftRight_eq m n).1] at hfloor
  exact hfloor.trans (mantissa_le_roundedMantissa _).1

/-- **Rounding passes no whole number by**, downward. -/
theorem roundedShift_le {k m n : Nat} (h : m ≤ k * 2 ^ n) : roundedShift m n ≤ k := by
  obtain ⟨hmantissa, hexact⟩ := shiftRight_eq m n
  rw [roundedShift]
  by_cases hdvd : 2 ^ n ∣ m
  · -- nothing is shifted out, so nothing is added
    obtain ⟨hround, hsticky⟩ := hexact hdvd
    rw [ExtendedMantissa.roundedMantissa, ExtendedMantissa.accuracy.eq_def]
    generalize (⟨m, false, false⟩ : ExtendedMantissa) >>> n = em at hmantissa hround hsticky ⊢
    obtain ⟨q, roundBit, stickyBit⟩ := em
    obtain rfl : roundBit = false := hround
    obtain rfl : stickyBit = false := hsticky
    obtain rfl : q = m / 2 ^ n := hmantissa
    exact Nat.div_le_of_le_mul (Nat.mul_comm k _ ▸ h)
  · have hlt : m < k * 2 ^ n := by
      refine Nat.lt_of_le_of_ne h fun heq => hdvd ?_
      rw [heq]
      exact Nat.dvd_mul_left _ _
    have hfloor : m / 2 ^ n < k := (Nat.div_lt_iff_lt_mul (Nat.two_pow_pos n)).2 hlt
    rw [← hmantissa] at hfloor
    exact (mantissa_le_roundedMantissa _).2.trans hfloor

/-! ## Rounding to a double -/

/-- A number with the significand of a double; where that is zero, the zero
of the sign. -/
def ofSignificand (s : Sign) (m : Nat) (e : Int) : UnpackedFloat :=
  if h : m = 0 then .zero s else .finite s m e (Nat.pos_of_ne_zero h)

/-- The exponent that a number is rounded at leaves it fifty-three bits, or
is that of a grain. -/
theorem targetExponent_eq (m : Nat) (e : Int) :
    Format.binary64.targetExponent (totalExponent m e) = max ((m.log2 : Int) - 52 + e) (-1074) := by
  have hbits : ((Format.binary64.mantissaBits : Nat) : Int) = 53 := rfl
  have hleast : Format.binary64.minExponent = -1074 := rfl
  rw [Format.targetExponent, totalExponent, hbits, hleast]
  omega

/-- What is rounded to a whole significand is a double, but for a carry that
takes one more shift. -/
theorem exists_carry {r : Nat} {t : Int} (hr : r ≤ 2 ^ 53) (ht : -1074 ≤ t)
    (hfull : t = -1074 ∨ 2 ^ 52 ≤ r) :
    ∃ n f, Canonical n f ∧ grains n f = grains r t ∧
      (shiftToTargetExponent .binary64 r t .exact).1.mantissa = n ∧
      (shiftToTargetExponent .binary64 r t .exact).2 = f := by
  -- only the next power of two has a bit too many
  rcases hr.lt_or_eq with hlt | rfl
  · have hlog : r.log2 < 53 := by
      by_cases hzero : r = 0
      · rw [hzero]
        decide
      · exact (Nat.log2_lt hzero).2 hlt
    have hshift : (Format.binary64.targetExponent (totalExponent r t) - t).toNat = 0 := by
      rw [targetExponent_eq]
      omega
    refine ⟨r, t, ⟨hlt, ht, hfull⟩, rfl, ?_, ?_⟩
    · simp only [shiftToTargetExponent, shiftToExponent, hshift]
      rfl
    · simp only [shiftToTargetExponent, shiftToExponent, hshift]
      exact Int.add_zero t
  · have hshift : (Format.binary64.targetExponent (totalExponent (2 ^ 53) t) - t).toNat = 1 := by
      rw [targetExponent_eq, Nat.log2_two_pow]
      omega
    refine ⟨2 ^ 52, t + 1, ⟨by decide, by omega, .inr (Nat.le_refl _)⟩, ?_, ?_, ?_⟩
    · have hone : (t + 1 - t).toNat = 1 := by omega
      rw [grains_shift (2 ^ 52) ht (by omega : t ≤ t + 1), hone, ← Nat.pow_add]
    · simp only [shiftToTargetExponent, shiftToExponent, hshift]
      rfl
    · simp only [shiftToTargetExponent, shiftToExponent, hshift]
      rfl

/-- A number of grains that lies between the same doubles as another. -/
structure Brackets (exact rounded : Nat) : Prop where
  lower : ∀ {k g}, Canonical k g → grains k g ≤ exact → grains k g ≤ rounded
  upper : ∀ {k g}, Canonical k g → exact ≤ grains k g → rounded ≤ grains k g

/-- What is shifted to the exponent of a double and rounded there lies between
the same doubles. -/
theorem brackets_roundedShift {m : Nat} {e t : Int} (he : -1074 ≤ e) (het : e ≤ t)
    (hfull : t = -1074 ∨ 2 ^ 52 * 2 ^ (t - e).toNat ≤ m) :
    Brackets (grains m e) (grains (roundedShift m (t - e).toNat) t) := by
  have ht : -1074 ≤ t := by omega
  constructor
  case lower =>
    intro k g hk hle
    rcases lt_or_ge g t with hlt | hge
    · have hbits : 2 ^ 52 * 2 ^ (t - e).toNat ≤ m := by
        rcases hfull with hleast | hbits
        · exact absurd hk.le (by omega)
        · exact hbits
      exact (grains_lt_of_exponent_lt hk.lt hk.le (le_roundedShift hbits) hlt).le
    · rw [grains_shift k he (het.trans hge), grains_le_grains_iff] at hle
      rw [grains_shift k ht hge, grains_le_grains_iff]
      refine le_roundedShift ?_
      have hexponent : (g - e).toNat = (g - t).toNat + (t - e).toNat := by omega
      rwa [hexponent, Nat.pow_add, ← Nat.mul_assoc] at hle
  case upper =>
    intro k g hk hle
    rcases lt_or_ge g t with hlt | hge
    · have hbits : 2 ^ 52 * 2 ^ (t - e).toNat ≤ m := by
        rcases hfull with hleast | hbits
        · exact absurd hk.le (by omega)
        · exact hbits
      -- the exact number has more bits than any double with the smaller exponent
      have hmore : grains k g < grains (2 ^ 52) t :=
        grains_lt_of_exponent_lt hk.lt hk.le (Nat.le_refl _) hlt
      rw [grains_shift (2 ^ 52) he het] at hmore
      have hexact := grains_le_grains_iff (e := e).2 hbits
      omega
    · rw [grains_shift k he (het.trans hge), grains_le_grains_iff] at hle
      rw [grains_shift k ht hge, grains_le_grains_iff]
      refine roundedShift_le ?_
      have hexponent : (g - e).toNat = (g - t).toNat + (t - e).toNat := by omega
      rwa [hexponent, Nat.pow_add, ← Nat.mul_assoc] at hle

/-- Rounding at the exponent that fits, from an exponent no greater. -/
theorem exists_roundWithAccuracy (s : Sign) {m : Nat} {e : Int} (hm : 0 < m) (he : -1074 ≤ e)
    (het : e ≤ Format.binary64.targetExponent (totalExponent m e)) :
    ∃ n f, Canonical n f ∧ Brackets (grains m e) (grains n f) ∧
      roundWithAccuracy .binary64 s m e .exact = ofSignificand s n f := by
  have hbelow : m < 2 ^ (m.log2 + 1) := Nat.lt_log2_self
  have habove : 2 ^ m.log2 ≤ m := Nat.log2_self_le (by omega)
  generalize htarget : Format.binary64.targetExponent (totalExponent m e) = t at het
  rw [targetExponent_eq] at htarget
  have hfull : t = -1074 ∨ 2 ^ 52 * 2 ^ (t - e).toNat ≤ m := by
    by_cases hleast : t = -1074
    · exact .inl hleast
    · have hbits : 52 + (t - e).toNat = m.log2 := by omega
      rw [← Nat.pow_add, hbits]
      exact .inr habove
  have hr : roundedShift m (t - e).toNat ≤ 2 ^ 53 := by
    refine roundedShift_le (hbelow.le.trans ?_)
    rw [← Nat.pow_add]
    exact Nat.pow_le_pow_right (by decide) (by omega)
  obtain ⟨n, f, hcanonical, hgrains, hmantissa, hexponent⟩ :=
    exists_carry hr (t := t) (by omega) (hfull.imp_right fun h => le_roundedShift h)
  refine ⟨n, f, hcanonical, hgrains ▸ brackets_roundedShift he het hfull, ?_⟩
  have hfirst : shiftToTargetExponent .binary64 m e .exact =
      ((⟨m, false, false⟩ : ExtendedMantissa) >>> (t - e).toNat, t) := by
    rw [shiftToTargetExponent, targetExponent_eq, htarget]
    refine Prod.ext rfl ?_
    change e + ((t - e).toNat : Int) = t
    omega
  subst hmantissa hexponent
  rw [roundWithAccuracy, hfirst]
  rfl

theorem log2_shiftLeft {m : Nat} (hm : m ≠ 0) (k : Nat) : (m <<< k).log2 = m.log2 + k := by
  rw [Nat.shiftLeft_eq]
  have hne : m * 2 ^ k ≠ 0 := Nat.mul_ne_zero hm (Nat.two_pow_pos k).ne'
  rw [Nat.log2_eq_iff hne]
  constructor
  · rw [Nat.pow_add]
    exact Nat.mul_le_mul_right _ (Nat.log2_self_le hm)
  · rw [Nat.add_right_comm, Nat.pow_add]
    exact Nat.mul_lt_mul_of_pos_right Nat.lt_log2_self (Nat.two_pow_pos k)

/-- **Rounding passes no double by.** A number of grains is rounded to a
double that lies between the same doubles. -/
theorem round_brackets (s : Sign) {m : Nat} {e : Int} (hm : 0 < m) (he : -1074 ≤ e) :
    ∃ n f, Canonical n f ∧ Brackets (grains m e) (grains n f) ∧
      UnpackedFloat.round .binary64 s m e = ofSignificand s n f := by
  rw [UnpackedFloat.round, decreaseExponent]
  generalize htarget : Format.binary64.targetExponent (totalExponent m e) = t
  rw [targetExponent_eq] at htarget
  -- trailing zeros are added first, so that the exponent is no greater than the one to round at
  generalize hk : (e - t).toNat = k
  have hlog : (m <<< k).log2 = m.log2 + k := log2_shiftLeft hm.ne' k
  have hpos : 0 < m <<< k := by
    rw [Nat.shiftLeft_eq]
    exact Nat.mul_pos hm (Nat.two_pow_pos k)
  have hgrains : grains (m <<< k) (e - k) = grains m e := by
    have hback : (e - (e - (k : Int))).toNat = k := by omega
    rw [grains_shift m (by omega : -1074 ≤ e - (k : Int)) (by omega), hback, Nat.shiftLeft_eq]
  rw [← hgrains]
  refine exists_roundWithAccuracy s hpos (by omega) ?_
  rw [targetExponent_eq, hlog]
  omega

end Decimal

end DeployLint
