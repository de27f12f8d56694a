import DeployLint.Proofs.Decimal.Packing

/-!
# Decimal — the place of a double on the line

A double that is a number stands at a whole number of grains, its level;
beyond the greatest stands infinity, as if at the next power of two
(`overflow`). Doubles compare as their levels do (`compare_eq`), and storing a
number that was rounded moves it only where it is beyond infinity
(`level?_stored`).
-/

namespace DeployLint

namespace Decimal

open Float.Model (Format UnpackedFloat)
open Float.Model.UnpackedFloat

/-- The grains that are too many for a double. -/
def overflow : Nat := grains (2 ^ 52) 972

theorem overflow_pos : 0 < overflow := grains_pos (Nat.two_pow_pos 52)

/-- Where a number stands, in grains from zero. -/
def level? : UnpackedFloat → Option Int
  | .notANumber => none
  | .infinity s => some (s.apply overflow)
  | .zero _ => some 0
  | .finite s m e _ => some (s.apply (grains m e))

variable {u v : UnpackedFloat} {i j : Int}

theorem Canonical.grains_lt_overflow {m : Nat} {e : Int} (h : Canonical m e) (he : e ≤ 971) :
    grains m e < overflow :=
  grains_lt_of_exponent_lt h.lt h.le (Nat.le_refl _) (by omega)

theorem Canonical.overflow_le_grains {m : Nat} {e : Int} (h : Canonical m e) (he : 972 ≤ e) :
    overflow ≤ grains m e := by
  have hfull : 2 ^ 52 ≤ m := h.full.resolve_left (by omega)
  rcases he.lt_or_eq with hlt | rfl
  · exact (grains_lt_of_exponent_lt (by decide) (by decide) hfull hlt).le
  · exact grains_le_grains_iff.2 hfull

/-- No double stands beyond infinity. -/
theorem IsDouble.level_bounds (hu : IsDouble u) (hi : level? u = some i) :
    -(overflow : Int) ≤ i ∧ i ≤ overflow := by
  have hpos := overflow_pos
  cases hu with
  | notANumber => exact nomatch hi
  | infinity s =>
    obtain rfl := Option.some.inj hi
    cases s <;> simp only [Sign.apply] <;> omega
  | zero s =>
    obtain rfl := Option.some.inj hi
    omega
  | finite s hm h he =>
    obtain rfl := Option.some.inj hi
    have hlt := h.grains_lt_overflow he
    cases s <;> simp only [Sign.apply] <;> omega

/-! ## Comparing -/

/-- A significand with an exponent above another's has all its bits. -/
theorem Canonical.full_of_lt {m n : Nat} {e f : Int} (hn : Canonical n f) (hm : Canonical m e)
    (h : e < f) : 2 ^ 52 ≤ n := by
  have := hm.le
  exact hn.full.resolve_left (by omega)

/-- Significands compare as their grains do, if their exponents decide first. -/
theorem compare_grains {m n : Nat} {e f : Int} (hm : Canonical m e) (hn : Canonical n f) :
    (compare e f).then (compare m n) = compare (grains m e) (grains n f) := by
  rcases lt_trichotomy e f with hlt | rfl | hlt
  · have hgrains := grains_lt_of_exponent_lt hm.lt hm.le (hn.full_of_lt hm hlt) hlt
    rw [compare_lt_iff_lt.2 hlt, compare_lt_iff_lt.2 hgrains]
    rfl
  · rw [compare_eq_iff_eq.2 (rfl : e = e)]
    change compare m n = _
    rcases lt_trichotomy m n with hlt | rfl | hlt
    · rw [compare_lt_iff_lt.2 hlt, compare_lt_iff_lt.2 (grains_lt_grains_iff.2 hlt)]
    · rw [compare_eq_iff_eq.2 (rfl : m = m), compare_eq_iff_eq.2 rfl]
    · rw [compare_gt_iff_gt.2 hlt, compare_gt_iff_gt.2 (grains_lt_grains_iff.2 hlt)]
  · have hgrains := grains_lt_of_exponent_lt hn.lt hn.le (hm.full_of_lt hn hlt) hlt
    rw [compare_gt_iff_gt.2 hlt, compare_gt_iff_gt.2 hgrains]
    rfl

/-- More grains are a higher level or a lower one, by the sign. -/
theorem compare_apply (s : Sign) (m n : Nat) :
    compare (s.apply m) (s.apply n) =
      match s with
      | .positive => compare m n
      | .negative => (compare m n).swap := by
  cases s <;> simp only [Sign.apply, Int.compare_eq_ite_lt, Nat.compare_eq_ite_lt] <;>
    grind [Ordering.swap]

/-- Signs compare as levels of the same size do. -/
theorem compare_sign (s t : Sign) {n : Nat} (hn : 0 < n) :
    compare s t = compare (s.apply n) (t.apply n) := by
  have hlt : -(n : Int) < n := by omega
  cases s with
  | negative =>
    cases t with
    | negative => exact (compare_eq_iff_eq.2 rfl).symm
    | positive => exact (compare_lt_iff_lt.2 hlt).symm
  | positive =>
    cases t with
    | negative => exact (compare_gt_iff_gt.2 hlt).symm
    | positive => exact (compare_eq_iff_eq.2 rfl).symm

/-- What is further from zero is above or below, by its sign. -/
theorem compare_apply_of_lt (s t : Sign) {m n : Nat} (h : m < n) :
    compare (s.apply m) (t.apply n) =
      match t with
      | .positive => .lt
      | .negative => .gt := by
  cases t with
  | positive => exact compare_lt_iff_lt.2 (by cases s <;> simp only [Sign.apply] <;> omega)
  | negative => exact compare_gt_iff_gt.2 (by cases s <;> simp only [Sign.apply] <;> omega)

theorem compare_apply_of_gt (s t : Sign) {m n : Nat} (h : n < m) :
    compare (s.apply m) (t.apply n) =
      match s with
      | .positive => .gt
      | .negative => .lt := by
  rw [← Int.compare_swap, compare_apply_of_lt t s h]
  cases s <;> rfl

/-- **Doubles compare as their levels do.** -/
theorem compare_eq (hu : IsDouble u) (hv : IsDouble v) (hi : level? u = some i)
    (hj : level? v = some j) : UnpackedFloat.compare u v = some (compare i j) := by
  have hpos := overflow_pos
  cases hu with
  | notANumber => exact nomatch hi
  | infinity s =>
    obtain rfl := Option.some.inj hi
    cases hv with
    | notANumber => exact nomatch hj
    | infinity t =>
      obtain rfl := Option.some.inj hj
      rw [← compare_sign s t hpos]
      cases s <;> rfl
    | zero t =>
      obtain rfl := Option.some.inj hj
      have hfar := compare_apply_of_gt s .positive hpos
      cases s <;> exact congrArg some hfar.symm
    | finite t hn h he =>
      obtain rfl := Option.some.inj hj
      have hfar := compare_apply_of_gt s t (h.grains_lt_overflow he)
      cases s <;> exact congrArg some hfar.symm
  | zero s =>
    obtain rfl := Option.some.inj hi
    cases hv with
    | notANumber => exact nomatch hj
    | infinity t =>
      obtain rfl := Option.some.inj hj
      have hfar := compare_apply_of_lt .positive t hpos
      cases t <;> exact congrArg some hfar.symm
    | zero t =>
      obtain rfl := Option.some.inj hj
      rfl
    | @finite t n f hn h he =>
      obtain rfl := Option.some.inj hj
      have hfar := compare_apply_of_lt .positive t (grains_pos (e := f) hn)
      cases t <;> exact congrArg some hfar.symm
  | @finite s m e hm h he =>
    obtain rfl := Option.some.inj hi
    cases hv with
    | notANumber => exact nomatch hj
    | infinity t =>
      obtain rfl := Option.some.inj hj
      have hfar := compare_apply_of_lt s t (h.grains_lt_overflow he)
      cases s <;> cases t <;> exact congrArg some hfar.symm
    | zero t =>
      obtain rfl := Option.some.inj hj
      have hfar := compare_apply_of_gt s .positive (grains_pos (e := e) hm)
      cases s <;> exact congrArg some hfar.symm
    | @finite t n f hn h' he' =>
      obtain rfl := Option.some.inj hj
      have hmore := grains_pos (e := e) hm
      have hmore' := grains_pos (e := f) hn
      have hsame := compare_grains h h'
      cases s <;> cases t
      case negative.negative =>
        rw [compare_apply, ← hsame]
        rfl
      case negative.positive =>
        have hlt : -(grains m e : Int) < grains n f := by omega
        exact congrArg some (compare_lt_iff_lt.2 hlt).symm
      case positive.negative =>
        have hgt : -(grains n f : Int) < grains m e := by omega
        exact congrArg some (compare_gt_iff_gt.2 hgt).symm
      case positive.positive =>
        rw [compare_apply, ← hsame]
        rfl

/-- What is compared and what stands on the line are numbers. -/
theorem compare_none (h : level? u = none ∨ level? v = none) :
    UnpackedFloat.compare u v = none := by
  rcases h with h | h
  · cases u with
    | notANumber => rfl
    | infinity | zero | finite => exact nomatch h
  · cases v with
    | notANumber => cases u <;> rfl
    | infinity | zero | finite => exact nomatch h

/-- What a comparison says of the levels. -/
theorem compare_eq_some_iff (hu : IsDouble u) (hv : IsDouble v) {o : Ordering} :
    UnpackedFloat.compare u v = some o ↔
      ∃ i j, level? u = some i ∧ level? v = some j ∧ compare i j = o := by
  constructor
  · intro h
    cases hi : level? u with
    | none => exact nomatch (compare_none (.inl hi)).symm.trans h
    | some i =>
      cases hj : level? v with
      | none => exact nomatch (compare_none (.inr hj)).symm.trans h
      | some j => exact ⟨i, j, rfl, rfl, Option.some.inj ((compare_eq hu hv hi hj).symm.trans h)⟩
  · rintro ⟨i, j, hi, hj, rfl⟩
    exact compare_eq hu hv hi hj

/-! ## Storing -/

/-- **Storing moves only what is beyond infinity.** -/
theorem level?_stored (s : Sign) {m : Nat} {e : Int} (h : Canonical m e) :
    level? (unpack .binary64 (pack .binary64 (ofSignificand s m e))) =
      some (s.apply (min (grains m e) overflow : Nat)) := by
  rcases Nat.eq_zero_or_pos m with rfl | hm
  · have hzero : s.apply (min (grains 0 e) overflow : Nat) = 0 := by
      rw [zero_grains, Nat.zero_min]
      cases s <;> rfl
    rw [hzero]
    exact congrArg level? (unpack_pack (.zero s))
  · rw [ofSignificand_of_pos s e hm]
    rcases lt_or_ge e 972 with hlt | hge
    · rw [unpack_pack (.finite s hm h (by omega)),
        Nat.min_eq_left (h.grains_lt_overflow (by omega)).le]
      rfl
    · rw [unpack_pack_of_overflow s hm hge, Nat.min_eq_right (h.overflow_le_grains hge)]
      rfl

theorem apply_mul (s : Sign) (x y : Int) : s.apply (x * y) = s.apply x * y := by
  cases s
  · exact (Int.neg_mul x y).symm
  · rfl

/-- The level of a number is its significand, scaled by its exponent. -/
theorem apply_grains (s : Sign) (m : Nat) (e : Int) :
    s.apply (grains m e) = s.apply m * 2 ^ (e + 1074).toNat := by
  rw [grains, Nat.cast_mul, apply_mul]
  push_cast
  rfl

/-- A number other than zero has a sign and a size. -/
theorem exists_apply_eq {x : Int} (hx : x ≠ 0) : ∃ (s : Sign) (n : Nat), 0 < n ∧ s.apply n = x := by
  rcases lt_or_gt_of_ne hx with hlt | hgt
  · refine ⟨.negative, x.natAbs, Int.natAbs_pos.2 hx, ?_⟩
    simp only [Sign.apply]
    omega
  · refine ⟨.positive, x.natAbs, Int.natAbs_pos.2 hx, ?_⟩
    simp only [Sign.apply]
    omega

/-- A number is rounded by its size and keeps its sign. -/
theorem normalize_apply (s t : Sign) {n : Nat} (hn : 0 < n) (e : Int) :
    UnpackedFloat.normalize .binary64 (s.apply n) e t = UnpackedFloat.round .binary64 s n e := by
  have hpos : (0 : Int) < n := Int.natCast_pos.2 hn
  cases s with
  | positive =>
    have hgt : compare (Sign.positive.apply n) 0 = .gt := compare_gt_iff_gt.2 hpos
    rw [UnpackedFloat.normalize, hgt]
    rfl
  | negative =>
    have hlt : compare (Sign.negative.apply n) 0 = .lt := compare_lt_iff_lt.2 (Int.neg_neg_of_pos hpos)
    rw [UnpackedFloat.normalize, hlt]
    simp only [Sign.apply, Int.neg_neg, Int.toNat_natCast]

/-- What lies between the same doubles stays above the same doubles, also when
it is stored. -/
theorem Brackets.apply_le {exact rounded m : Nat} {f : Int} {s t : Sign}
    (hbrackets : Brackets exact rounded) (h : Canonical m f) (hf : f ≤ 971)
    (hle : s.apply (grains m f) ≤ t.apply exact) :
    s.apply (grains m f) ≤ t.apply (min rounded overflow : Nat) := by
  have hlt := h.grains_lt_overflow hf
  cases s <;> cases t <;> simp only [Sign.apply] at hle ⊢
  case negative.negative =>
    have hupper := hbrackets.upper h (by omega)
    omega
  case negative.positive => omega
  case positive.negative =>
    -- both are zero
    have hupper := hbrackets.upper h (by omega)
    omega
  case positive.positive =>
    have hlower := hbrackets.lower h (by omega)
    omega

/-- **Rounding passes no double by**, downward: a finite double that is no
greater than a number of grains is no greater than what that is stored as. -/
theorem exists_level?_normalize {s t : Sign} {m : Nat} {e f x : Int} (h : Canonical m f)
    (hf : f ≤ 971) (he : -1074 ≤ e) (hle : s.apply (grains m f) ≤ x * 2 ^ (e + 1074).toNat) :
    ∃ k, level? (unpack .binary64 (pack .binary64 (UnpackedFloat.normalize .binary64 x e t))) = some k ∧
      s.apply (grains m f) ≤ k := by
  by_cases hx : x = 0
  · have hzero : UnpackedFloat.normalize .binary64 x e t = .zero t := by
      rw [UnpackedFloat.normalize, compare_eq_iff_eq.2 hx]
    rw [hx, Int.zero_mul] at hle
    exact ⟨0, hzero ▸ congrArg level? (unpack_pack (.zero t)), hle⟩
  · obtain ⟨u, n, hn, rfl⟩ := exists_apply_eq hx
    obtain ⟨r, g, hr, hbrackets, hround⟩ := round_brackets u hn he
    rw [normalize_apply u t hn, hround]
    refine ⟨_, level?_stored u hr, hbrackets.apply_le h hf ?_⟩
    rwa [apply_grains u n e]

/-! ## Doubles -/

/-- Where a double stands, in grains from zero. -/
def levelOf? (x : Float) : Option Int := level? x.toModel.unpack

theorem isDouble_toModel (x : Float) : IsDouble x.toModel.unpack := isDouble_unpack _

theorem levelOf?_bounds {x : Float} (hi : levelOf? x = some i) :
    -(overflow : Int) ≤ i ∧ i ≤ overflow :=
  (isDouble_toModel x).level_bounds hi

theorem levelOf?_zero : levelOf? 0.0 = some 0 := rfl

/-- **A double is below another if its level is.** -/
theorem lt_iff_level {a b : Float} :
    a < b ↔ ∃ i j, levelOf? a = some i ∧ levelOf? b = some j ∧ i < j := by
  change Float.lt a b = true ↔ _
  rw [Float.lt, decide_eq_true_iff]
  change (UnpackedFloat.compare a.toModel.unpack b.toModel.unpack == some .lt) = true ↔ _
  rw [beq_iff_eq, compare_eq_some_iff (isDouble_toModel a) (isDouble_toModel b)]
  simp only [compare_lt_iff_lt]
  rfl

/-- **A double is at most another if its level is.** -/
theorem le_iff_level {a b : Float} :
    a ≤ b ↔ ∃ i j, levelOf? a = some i ∧ levelOf? b = some j ∧ i ≤ j := by
  change Float.le a b = true ↔ _
  rw [Float.le, decide_eq_true_iff]
  change (UnpackedFloat.compare a.toModel.unpack b.toModel.unpack).any Ordering.isLE = true ↔ _
  rw [Option.any_eq_true]
  constructor
  · rintro ⟨o, ho, hle⟩
    obtain ⟨i, j, hi, hj, rfl⟩ :=
      (compare_eq_some_iff (isDouble_toModel a) (isDouble_toModel b)).1 ho
    exact ⟨i, j, hi, hj, Int.isLE_compare.1 hle⟩
  · rintro ⟨i, j, hi, hj, hle⟩
    exact ⟨_, compare_eq (isDouble_toModel a) (isDouble_toModel b) hi hj, Int.isLE_compare.2 hle⟩

/-- A double that is not negative stands at zero or above. -/
theorem nonneg_iff_level {x : Float} : 0.0 ≤ x ↔ ∃ i, levelOf? x = some i ∧ 0 ≤ i := by
  rw [le_iff_level]
  constructor
  · rintro ⟨i, j, hi, hj, hle⟩
    obtain rfl := Option.some.inj (levelOf?_zero.symm.trans hi)
    exact ⟨j, hj, hle⟩
  · rintro ⟨j, hj, hle⟩
    exact ⟨0, j, levelOf?_zero, hj, hle⟩

end Decimal

end DeployLint
