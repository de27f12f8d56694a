import DeployLint.Proofs.Decimal.Literal
import DeployLint.Proofs.Decimal.Levels

/-!
# Decimal — literals of what is not negative

A literal stands for a number below zero only with a minus sign in front, and
for no number only as the word for it (`nonneg_of_literalChars?`). What scales
a quantity, a product or a quotient with a number above zero, keeps its sign
(`mul_nonneg_of_isPositive`, `div_nonneg_of_isPositive`).
-/

namespace DeployLint

namespace Decimal

open Float.Model (Format UnpackedFloat)
open Float.Model.UnpackedFloat

/-! ## The sign of a number -/

/-- The numbers from zero upward, with zero of either sign. -/
inductive Nonneg : UnpackedFloat → Prop
  | zero (s : Sign) : Nonneg (.zero s)
  | infinity : Nonneg (.infinity .positive)
  | finite {m : Nat} (e : Int) (hm : 0 < m) : Nonneg (.finite .positive m e hm)

/-- The numbers above zero, without infinity. -/
inductive Positive : UnpackedFloat → Prop
  | finite {m : Nat} (e : Int) (hm : 0 < m) : Positive (.finite .positive m e hm)

variable {u v : UnpackedFloat}

theorem nonneg_iff_level? : Nonneg u ↔ ∃ i, level? u = some i ∧ 0 ≤ i := by
  constructor
  · rintro (s | _ | ⟨e, hm⟩)
    · exact ⟨0, rfl, le_refl _⟩
    · exact ⟨overflow, rfl, Int.natCast_nonneg _⟩
    · exact ⟨grains _ e, rfl, Int.natCast_nonneg _⟩
  · rintro ⟨i, hi, hle⟩
    cases u with
    | notANumber => exact nomatch hi
    | zero s => exact .zero s
    | infinity s =>
      obtain rfl := Option.some.inj hi
      have hpos := overflow_pos
      cases s with
      | positive => exact .infinity
      | negative =>
        simp only [Sign.apply] at hle
        omega
    | finite s m e hm =>
      obtain rfl := Option.some.inj hi
      have hpos := grains_pos (e := e) hm
      cases s with
      | positive => exact .finite e hm
      | negative =>
        simp only [Sign.apply] at hle
        omega

theorem nonneg_ofSignificand (m : Nat) (e : Int) : Nonneg (ofSignificand .positive m e) := by
  rcases Nat.eq_zero_or_pos m with rfl | hm
  · exact .zero .positive
  · rw [ofSignificand_of_pos .positive e hm]
    exact .finite e hm

/-- **Storing keeps the sign.** -/
theorem Nonneg.stored (h : Nonneg u) : Nonneg (unpack .binary64 (pack .binary64 u)) := by
  cases h with
  | zero s =>
    rw [unpack_pack (.zero s)]
    exact .zero s
  | infinity =>
    rw [unpack_pack (.infinity .positive)]
    exact .infinity
  | @finite m e hm =>
    rw [pack_finite]
    by_cases hbeyond : 972 ≤ e
    · rw [if_pos hbeyond]
      exact .infinity
    · have hexponent : BitVec.ofNat 11 (e + 1075).toNat ≠ -1#11 := by
        intro heq
        have hlast := congrArg BitVec.toNat heq
        rw [BitVec.toNat_ofNat, Nat.mod_eq_of_lt (by omega)] at hlast
        change (e + 1075).toNat = 2047 at hlast
        omega
      rw [if_neg hbeyond]
      split
      · rw [unpack_packComponents, if_neg hexponent]
        split
        · exact nonneg_ofSignificand _ _
        · exact nonneg_ofSignificand _ _
      · rw [unpack_packComponents, if_neg (by decide), if_pos rfl]
        exact nonneg_ofSignificand _ _

theorem exists_roundWithAccuracy_eq (s : Sign) (m : Nat) (e : Int) (accuracy : Accuracy) :
    ∃ n f, roundWithAccuracy .binary64 s m e accuracy = ofSignificand s n f :=
  ⟨_, _, rfl⟩

theorem nonneg_roundWithAccuracy (m : Nat) (e : Int) (accuracy : Accuracy) :
    Nonneg (roundWithAccuracy .binary64 .positive m e accuracy) := by
  obtain ⟨n, f, heq⟩ := exists_roundWithAccuracy_eq .positive m e accuracy
  rw [heq]
  exact nonneg_ofSignificand n f

theorem Nonneg.mul (hu : Nonneg u) (hv : Positive v) :
    Nonneg (UnpackedFloat.mul .binary64 u v) := by
  cases hv
  cases hu with
  | zero s => exact .zero _
  | infinity => exact .infinity
  | finite e hm => exact nonneg_roundWithAccuracy _ _ _

theorem Nonneg.div (hu : Nonneg u) (hv : Positive v) :
    Nonneg (UnpackedFloat.div .binary64 u v) := by
  cases hv
  cases hu with
  | zero s => exact .zero _
  | infinity => exact .infinity
  | finite e hm => exact nonneg_roundWithAccuracy _ _ _

theorem nonneg_normalize_ofNat (n : Nat) :
    Nonneg (UnpackedFloat.normalize .binary64 n 0 .positive) := by
  rcases Nat.eq_zero_or_pos n with rfl | hn
  · exact .zero .positive
  · rw [UnpackedFloat.normalize, compare_gt_iff_gt.2 (by omega : (0 : Int) < n)]
    exact nonneg_roundWithAccuracy _ _ _

theorem nonneg_ofScientific (m : Nat) (e : Int) :
    Nonneg (UnpackedFloat.ofScientific .binary64 m e) := by
  rw [UnpackedFloat.ofScientific]
  split
  · exact .zero .positive
  · split
    · exact .infinity
    · split
      · exact .zero .positive
      · split
        · exact Nonneg.mul (.finite _ _) (.finite _ _)
        · exact Nonneg.div (.finite _ _) (.finite _ _)

/-! ## The sign of a double -/

variable {x y : Float}

theorem nonneg_iff : 0.0 ≤ x ↔ Nonneg x.toModel.unpack :=
  nonneg_iff_level.trans nonneg_iff_level?.symm

/-- Whether a double is above zero and not infinite. -/
def isPositive (x : Float) : Bool :=
  match x.toModel.unpack with
  | .finite .positive .. => true
  | _ => false

theorem positive_of_isPositive (h : isPositive x = true) : Positive x.toModel.unpack := by
  rw [isPositive] at h
  split at h
  · rename_i heq
    rw [heq]
    exact .finite _ _
  · exact nomatch h

/-- **A product with a number above zero keeps the sign.** -/
theorem mul_nonneg_of_isPositive (hx : 0.0 ≤ x) (hy : isPositive y = true) : 0.0 ≤ x * y :=
  nonneg_iff.2 ((nonneg_iff.1 hx).mul (positive_of_isPositive hy)).stored

/-- **A quotient by a number above zero keeps the sign.** -/
theorem div_nonneg_of_isPositive (hx : 0.0 ≤ x) (hy : isPositive y = true) : 0.0 ≤ x / y :=
  nonneg_iff.2 ((nonneg_iff.1 hx).div (positive_of_isPositive hy)).stored

theorem nonneg_toFloat (n : UInt64) : 0.0 ≤ n.toFloat :=
  nonneg_iff.2 (nonneg_normalize_ofNat n.toNat).stored

theorem isPositive_powerOfTen :
    ∀ e : Fin 23, isPositive Float.exactlyRepresentablePowersOfTen[e] = true := by
  decide

theorem ofScientific_nonneg (m : Nat) (negative : Bool) (e : Nat) :
    0.0 ≤ Float.ofScientific m negative e := by
  rw [Float.ofScientific]
  split
  · rename_i h
    have hpower := isPositive_powerOfTen ⟨e, by omega⟩
    cases negative with
    | false => exact mul_nonneg_of_isPositive (nonneg_toFloat _) hpower
    | true => exact div_nonneg_of_isPositive (nonneg_toFloat _) hpower
  · exact nonneg_iff.2 (nonneg_ofScientific _ _).stored

/-! ## Literals -/

theorem scale_nonneg (m : Nat) (e : Int) : 0.0 ≤ scale m e := by
  rw [scale]
  split
  · decide
  · split
    · decide
    · exact ofScientific_nonneg _ _ _

theorem unsigned?_nonneg {cs : List Char} (h : unsigned? cs = some x) : 0.0 ≤ x := by
  rw [unsigned?] at h
  split at h
  split at h
  · cases h
  · obtain ⟨e, -, rfl⟩ := Option.map_eq_some_iff.1 h
    exact scale_nonneg _ _

/-- The word for no number, in any case. -/
def IsNoNumber (cs : List Char) : Prop := cs.map Char.toLower = ['n', 'a', 'n']

theorem magnitude?_nonneg {cs : List Char} (h : magnitude? cs = some x) (hword : ¬ IsNoNumber cs) :
    0.0 ≤ x := by
  rw [IsNoNumber] at hword
  rw [magnitude?, if_neg hword] at h
  split at h
  · obtain rfl := Option.some.inj h
    decide
  · exact unsigned?_nonneg h

/-- **Which literals may lower a sum**: those with a minus sign, and the word
for no number with a plus sign or none. -/
theorem nonneg_of_literalChars? {cs : List Char} (h : literalChars? cs = some x) :
    0.0 ≤ x ∨ (∃ rest, cs = '-' :: rest) ∨ (∃ rest, cs = '+' :: rest ∧ IsNoNumber rest) ∨
      IsNoNumber cs := by
  rcases sign_cases cs with ⟨rest, rfl⟩ | ⟨rest, rfl⟩ | hbare
  · exact .inr (.inl ⟨rest, rfl⟩)
  · by_cases hword : IsNoNumber rest
    · exact .inr (.inr (.inl ⟨rest, rfl, hword⟩))
    · exact .inl (magnitude?_nonneg h hword)
  · by_cases hword : IsNoNumber cs
    · exact .inr (.inr (.inr hword))
    · rw [literalChars?] at h
      · exact .inl (magnitude?_nonneg h hword)
      · rintro rest rfl
        exact (hbare '-' rfl).2 rfl
      · rintro rest rfl
        exact (hbare '+' rfl).1 rfl

end Decimal

end DeployLint
