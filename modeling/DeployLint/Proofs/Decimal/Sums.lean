import DeployLint.Proofs.Decimal.Levels

/-!
# Decimal — sums of doubles

A sum of doubles is rounded, and may be beyond infinity, so it is not the sum
of what is added. Still it is not below the first of two when the second is
not negative (`lt_add_of_nonneg`), since the first is a double that rounding
does not pass by.
-/

namespace DeployLint

namespace Decimal

open Float.Model (Format UnpackedFloat)
open Float.Model.UnpackedFloat

variable {u v : UnpackedFloat} {i j : Int}

/-- The level at an exponent that is made smaller. -/
theorem apply_grains_shift (s : Sign) (m : Nat) {e t : Int} (ht : -1074 ≤ t) (hte : t ≤ e) :
    s.apply (grains m e) =
      s.apply (m <<< (e - t).toNat : Nat) * 2 ^ (t + 1074).toNat := by
  rw [grains_shift m ht hte, apply_grains, Nat.shiftLeft_eq]

/-- **Adding what is not negative lowers no sum.** Only below everything, at
negative infinity, is there no sum with what is above everything. -/
theorem exists_level?_add (hu : IsDouble u) (hv : IsDouble v) (hi : level? u = some i)
    (hj : level? v = some j) (hbottom : -(overflow : Int) < i) (hnonneg : 0 ≤ j) :
    ∃ k, level? (unpack .binary64 (pack .binary64 (UnpackedFloat.add .binary64 u v))) = some k ∧
      i ≤ k := by
  have hpos := overflow_pos
  have hbounds := hu.level_bounds hi
  have htop : level? (unpack .binary64 (pack .binary64 (.infinity .positive))) =
      some (overflow : Int) :=
    congrArg level? (unpack_pack (.infinity .positive))
  cases hv with
  | notANumber => exact nomatch hj
  | infinity t =>
    obtain rfl := Option.some.inj hj
    cases t with
    | negative =>
      simp only [Sign.apply] at hnonneg
      omega
    | positive =>
      refine ⟨overflow, ?_, hbounds.2⟩
      cases hu with
      | notANumber => exact nomatch hi
      | infinity s =>
        obtain rfl := Option.some.inj hi
        cases s with
        -- the infinities have no sum
        | negative => exact absurd hbottom (lt_irrefl _)
        | positive => exact htop
      | zero s => exact htop
      | finite s hm h he => exact htop
  | zero t =>
    refine ⟨i, ?_, le_refl _⟩
    cases hu with
    | notANumber => exact nomatch hi
    | infinity s => exact (congrArg level? (unpack_pack (.infinity s))).trans hi
    | zero s =>
      obtain rfl := Option.some.inj hi
      cases s <;> cases t <;> rfl
    | finite s hm h he => exact (congrArg level? (unpack_pack (.finite s hm h he))).trans hi
  | @finite t n g hn h' hg =>
    cases hu with
    | notANumber => exact nomatch hi
    | infinity s =>
      exact ⟨i, (congrArg level? (unpack_pack (.infinity s))).trans hi, le_refl _⟩
    | zero s =>
      obtain rfl := Option.some.inj hi
      exact ⟨j, (congrArg level? (unpack_pack (.finite t hn h' hg))).trans hj, hnonneg⟩
    | @finite s m e hm h he =>
      obtain rfl := Option.some.inj hi
      obtain rfl := Option.some.inj hj
      -- both are brought to the smaller exponent, where their significands are added
      have hle := h.le
      have hle' := h'.le
      refine exists_level?_normalize h he (by omega : -1074 ≤ min e g) ?_
      rw [Int.add_mul, ← apply_grains_shift s m (by omega) (by omega),
        ← apply_grains_shift t n (by omega) (by omega)]
      omega

/-! ## Sums of doubles -/

variable {a b l : Float}

theorem exists_levelOf?_add (hi : levelOf? a = some i) (hj : levelOf? b = some j)
    (hbottom : -(overflow : Int) < i) (hnonneg : 0 ≤ j) :
    ∃ k, levelOf? (a + b) = some k ∧ i ≤ k :=
  exists_level?_add (isDouble_toModel a) (isDouble_toModel b) hi hj hbottom hnonneg

/-- **A sum stays above a bound** when something is added that is not negative. -/
theorem lt_add_of_nonneg (h : l < a) (hb : 0.0 ≤ b) : l < a + b := by
  obtain ⟨m, i, hm, hi, hlt⟩ := lt_iff_level.1 h
  obtain ⟨j, hj, hnonneg⟩ := nonneg_iff_level.1 hb
  have hbottom := (levelOf?_bounds hm).1
  obtain ⟨k, hk, hle⟩ := exists_levelOf?_add hi hj (by omega) hnonneg
  exact lt_iff_level.2 ⟨m, k, hm, hk, by omega⟩

/-- A sum of what is not negative is not negative. -/
theorem add_nonneg_of_nonneg (ha : 0.0 ≤ a) (hb : 0.0 ≤ b) : 0.0 ≤ a + b := by
  obtain ⟨i, hi, hnonneg⟩ := nonneg_iff_level.1 ha
  obtain ⟨j, hj, hnonneg'⟩ := nonneg_iff_level.1 hb
  have hpos := overflow_pos
  obtain ⟨k, hk, hle⟩ := exists_levelOf?_add hi hj (by omega) hnonneg'
  exact nonneg_iff_level.2 ⟨k, hk, by omega⟩

theorem level?_add_zero {u : UnpackedFloat} (hu : IsDouble u) :
    level? (unpack .binary64 (pack .binary64 (UnpackedFloat.add .binary64 u (.zero .positive)))) =
      level? u := by
  cases hu with
  | notANumber => rfl
  | infinity s => cases s <;> rfl
  | zero s => cases s <;> rfl
  | finite s hm h he => exact congrArg level? (unpack_pack (.finite s hm h he))

/-- Zero adds nothing. -/
theorem lt_add_zero_iff : l < a + 0.0 ↔ l < a := by
  have hsame : levelOf? (a + 0.0) = levelOf? a := level?_add_zero (isDouble_toModel a)
  rw [lt_iff_level, lt_iff_level, hsame]

end Decimal

end DeployLint
