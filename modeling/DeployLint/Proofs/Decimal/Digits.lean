import DeployLint.Proofs.Decimal.Literal
import DeployLint.Proofs.Text.Case

/-!
# Decimal — numbers in the digits of a class

A decimal number is made of digits with at most one point among them. Said of
any class of digits (`IsDecimalOf`), this covers the numbers of literals, whose
digits are those of ASCII (`isDecimal_iff`), and numbers in the digits of every
script. A number goes on with a digit, and with a point if it has none
(`IsDecimalOf.concat`), and with nothing else (`IsDecimalOf.next`). Of the
numbers in the digits of every script, those in ASCII are the literals
(`isLiteral_iff_of_signed`).
-/

namespace DeployLint

namespace Decimal

variable {P Q : List Char → Prop} {digit : Char → Bool} {c : Char} {cs other rest : List Char}

/-- A longer beginning of a text goes on with the first character of what is left. -/
theorem exists_next_of_prefix (h : other <+: cs ++ rest) (hlong : cs.length < other.length) :
    ∃ c more, other = cs ++ c :: more ∧ c ∈ rest.head? := by
  obtain ⟨more, rfl⟩ := List.prefix_of_prefix_length_le (List.prefix_append cs rest) h hlong.le
  cases more with
  | nil => exact absurd hlong (by rw [List.append_nil]; exact lt_irrefl _)
  | cons c more =>
    obtain ⟨tail, rfl⟩ := (List.prefix_append_right_inj cs).1 h
    exact ⟨c, more, rfl, rfl⟩

/-! ## Digits and a point -/

/-- A decimal number without a sign, in the digits of a class: digits, with at
most one point among them. -/
structure IsDecimalOf (digit : Char → Bool) (cs : List Char) : Prop where
  chars : ∀ c ∈ cs, digit c = true ∨ c = '.'
  hasDigit : ∃ c ∈ cs, digit c = true
  point : cs.count '.' ≤ 1

namespace IsDecimalOf

theorem of_digits (hpoint : digit '.' = false) (hne : cs ≠ []) (hcs : ∀ c ∈ cs, digit c = true) :
    IsDecimalOf digit cs := by
  obtain ⟨c, hc⟩ := List.exists_mem_of_ne_nil _ hne
  refine ⟨fun c hc => .inl (hcs c hc), ⟨c, hc, hcs c hc⟩, ?_⟩
  rw [List.count_eq_zero.2 fun hmem => Bool.false_ne_true (hpoint.symm.trans (hcs '.' hmem))]
  exact Nat.zero_le 1

/-- A number goes on with a digit, and with a point if it has none. -/
theorem concat (h : IsDecimalOf digit cs) (hpoint : digit '.' = false)
    (hc : digit c = true ∨ c = '.' ∧ '.' ∉ cs) : IsDecimalOf digit (cs ++ [c]) := by
  obtain ⟨d, hd, hdigit⟩ := h.hasDigit
  refine ⟨?_, ⟨d, List.mem_append_left _ hd, hdigit⟩, ?_⟩
  · rw [List.forall_mem_append, List.forall_mem_singleton]
    exact ⟨h.chars, hc.imp_right And.left⟩
  · rw [List.count_append]
    rcases hc with hc | ⟨rfl, hnone⟩
    · have hne : '.' ∉ [c] := by
        rw [List.mem_singleton]
        rintro rfl
        exact Bool.false_ne_true (hpoint.symm.trans hc)
      rw [List.count_eq_zero.2 hne, Nat.add_zero]
      exact h.point
    · rw [List.count_eq_zero.2 hnone, List.count_singleton_self]

/-- A point may stand anywhere among digits. -/
theorem of_point {whole fraction : List Char} (hpoint : digit '.' = false)
    (hne : whole ++ fraction ≠ []) (hdigits : ∀ c ∈ whole ++ fraction, digit c = true) :
    IsDecimalOf digit (whole ++ '.' :: fraction) := by
  have hperm : (whole ++ '.' :: fraction).Perm ((whole ++ fraction) ++ ['.']) :=
    List.perm_middle.trans (List.perm_append_singleton _ _).symm
  have hnone : '.' ∉ whole ++ fraction := fun hmem =>
    Bool.false_ne_true (hpoint.symm.trans (hdigits '.' hmem))
  obtain ⟨hchars, ⟨c, hc, hdigit⟩, hcount⟩ :=
    (of_digits hpoint hne hdigits).concat hpoint (.inr ⟨rfl, hnone⟩)
  exact ⟨fun c hc => hchars c (hperm.subset hc), ⟨c, hperm.symm.subset hc, hdigit⟩,
    hperm.count_eq '.' ▸ hcount⟩

theorem mono {more : Char → Bool} (h : IsDecimalOf digit cs)
    (hmore : ∀ c, digit c = true → more c = true) : IsDecimalOf more cs := by
  obtain ⟨c, hc, hdigit⟩ := h.hasDigit
  exact ⟨fun c hc => (h.chars c hc).imp_left (hmore c), ⟨c, hc, hmore c hdigit⟩, h.point⟩

/-- It goes on with nothing else. -/
theorem next (h : IsDecimalOf digit (cs ++ c :: rest)) : digit c = true ∨ c = '.' ∧ '.' ∉ cs := by
  refine (h.chars c (List.mem_append_right _ List.mem_cons_self)).imp_right fun hc => ⟨hc, ?_⟩
  intro hmem
  have hcount := h.point
  rw [hc, List.count_append, List.count_cons_self] at hcount
  have hone : 0 < cs.count '.' := List.count_pos_iff.2 hmem
  omega

/-- **A number ends at the latest** where what follows is no digit of the class,
and no point either unless there was one before. -/
theorem length_le_of_stop (h : IsDecimalOf digit other) (hbegins : other <+: cs ++ rest)
    (hstop : ∀ c ∈ rest.head?, digit c = false ∧ (c = '.' → '.' ∈ cs)) :
    other.length ≤ cs.length := by
  by_contra hlong
  obtain ⟨c, more, rfl, hc⟩ := exists_next_of_prefix hbegins (Nat.lt_of_not_le hlong)
  obtain ⟨hdigit, hpoint⟩ := hstop c hc
  rcases h.next with hnext | ⟨rfl, hnone⟩
  · exact Bool.false_ne_true (hdigit.symm.trans hnext)
  · exact hnone (hpoint rfl)

theorem head_ne_sign (hplus : digit '+' = false) (hminus : digit '-' = false)
    (h : IsDecimalOf digit cs) : ∀ c ∈ cs.head?, c ≠ '+' ∧ c ≠ '-' := by
  intro c hc
  rcases h.chars c (List.mem_of_mem_head? hc) with hdigit | rfl
  · constructor
    · rintro rfl
      exact Bool.false_ne_true (hplus.symm.trans hdigit)
    · rintro rfl
      exact Bool.false_ne_true (hminus.symm.trans hdigit)
  · decide

end IsDecimalOf

theorem isDecimal_iff : IsDecimal cs ↔ IsDecimalOf Char.isDigit cs := by
  refine ⟨fun h => ?_, fun h => isDecimal_of_count_point_le h.chars h.hasDigit h.point⟩
  cases h with
  | whole h => exact .of_digits rfl h.1 h.2
  | point h => exact .of_point rfl h.1 h.2

/-! ## Signs -/

theorem Signed.imp (h : Signed P cs) (hPQ : ∀ n, n ⊆ cs → P n → Q n) : Signed Q cs := by
  cases h with
  | bare h => exact .bare (hPQ _ (List.Subset.refl _) h)
  | plus h => exact .plus (hPQ _ (List.subset_cons_self _ _) h)
  | minus h => exact .minus (hPQ _ (List.subset_cons_self _ _) h)

/-- A number with a sign or without is not empty. -/
theorem Signed.ne_nil (h : Signed (IsDecimalOf digit) cs) : cs ≠ [] := by
  cases h with
  | bare h => exact h.hasDigit.elim fun _ hc => List.ne_nil_of_mem hc.1
  | plus _ => exact List.cons_ne_nil _ _
  | minus _ => exact List.cons_ne_nil _ _

/-- A number with a sign goes on as one without. -/
theorem signed_concat (h : Signed (IsDecimalOf digit) cs) (hpoint : digit '.' = false)
    (hc : digit c = true ∨ c = '.' ∧ '.' ∉ cs) : Signed (IsDecimalOf digit) (cs ++ [c]) := by
  have htail : ∀ {sign n}, cs = sign :: n → digit c = true ∨ c = '.' ∧ '.' ∉ n := by
    rintro sign n rfl
    exact hc.imp_right fun h => ⟨h.1, fun hmem => h.2 (List.mem_cons_of_mem _ hmem)⟩
  cases h with
  | bare h => exact .bare (h.concat hpoint hc)
  | plus h => exact .plus (h.concat hpoint (htail rfl))
  | minus h => exact .minus (h.concat hpoint (htail rfl))

theorem signed_next (h : Signed (IsDecimalOf digit) (cs ++ c :: rest)) (hne : cs ≠ []) :
    digit c = true ∨ c = '.' ∧ '.' ∉ cs := by
  have hsigned : ∀ {sign n}, IsDecimalOf digit n → cs ++ c :: rest = sign :: n → sign ≠ '.' →
      digit c = true ∨ c = '.' ∧ '.' ∉ cs := by
    intro sign n h heq hsign
    obtain ⟨d, front, rfl⟩ := List.exists_cons_of_ne_nil hne
    obtain ⟨rfl, rfl⟩ := List.cons.inj heq
    refine h.next.imp_right fun hc => ⟨hc.1, fun hmem => ?_⟩
    exact (List.mem_cons.1 hmem).elim (fun heq => hsign heq.symm) hc.2
  generalize hwhole : cs ++ c :: rest = whole at h
  cases h with
  | bare h => exact (hwhole ▸ h).next
  | plus h => exact hsigned h hwhole (by decide)
  | minus h => exact hsigned h hwhole (by decide)

/-! ## ASCII -/

theorem isAscii_of_isDigit {c : Char} (h : c.isDigit = true) : c.toNat < 0x80 := by
  simp only [Char.isDigit, Bool.and_eq_true, decide_eq_true_eq] at h
  have hhigh : c.toNat ≤ 57 := UInt32.le_iff_toNat_le.1 h.2
  omega

theorem isDigit_of_isAscii {c : Char} (h : c.toNat < 0x80) (hdigit : Text.isDecimalDigit c = true) :
    c.isDigit = true := by
  rwa [Text.isDecimalDigit, if_pos h] at hdigit

theorem IsDecimal.ascii (h : IsDecimal cs) : ∀ c ∈ cs, c.toNat < 0x80 := by
  intro c hc
  rcases (isDecimal_iff.1 h).chars c hc with hdigit | rfl
  · exact isAscii_of_isDigit hdigit
  · decide

theorem Signed.ascii (h : Signed P cs) (hP : ∀ cs, P cs → ∀ c ∈ cs, c.toNat < 0x80) :
    ∀ c ∈ cs, c.toNat < 0x80 := by
  cases h with
  | bare h => exact hP _ h
  | plus h => exact List.forall_mem_cons.2 ⟨by decide, hP _ h⟩
  | minus h => exact List.forall_mem_cons.2 ⟨by decide, hP _ h⟩

/-- A literal is written in ASCII. -/
theorem IsLiteral.ascii (h : IsLiteral cs) : ∀ c ∈ cs, c.toNat < 0x80 := by
  refine Signed.ascii h fun ds hds => ?_
  cases hds with
  | word h =>
    have hwords : literalWords.all (fun word => word.all fun c => c.toNat < 0x80) = true := by
      decide
    have hword := List.all_eq_true.1 (List.all_eq_true.1 hwords _ h)
    exact fun c hc => Text.ascii_of_toLower (of_decide_eq_true (hword _ (List.mem_map_of_mem hc)))
  | number hdecimal hexponent =>
    refine List.forall_mem_append.2 ⟨hdecimal.ascii, ?_⟩
    cases hexponent with
    | absent => exact List.forall_mem_nil _
    | mark hmark hdigits =>
      refine List.forall_mem_cons.2 ⟨?_, ?_⟩
      · rcases hmark with rfl | rfl <;> decide
      · exact Signed.ascii hdigits fun ds hds c hc => isAscii_of_isDigit (hds.2 c hc)

/-- A digit and a point have no case. -/
theorem toLower_of_digit_or_point {c : Char} (h : c.isDigit = true ∨ c = '.') : c.toLower = c := by
  rcases h with hdigit | rfl
  · have hall : ∀ n < 0x80, (Char.ofNat n).isDigit = true →
        (Char.ofNat n).toLower = Char.ofNat n := by decide
    have hc := hall c.toNat (isAscii_of_isDigit hdigit)
    rw [Char.ofNat_toNat] at hc
    exact hc hdigit
  · rfl

/-- **A literal of digits and points** is a decimal number. -/
theorem isDecimal_of_isLiteral (hcs : ∀ c ∈ cs, c.isDigit = true ∨ c = '.') (h : IsLiteral cs) :
    IsDecimal cs := by
  cases h with
  | plus _ => exact absurd (hcs '+' List.mem_cons_self) (by decide)
  | minus _ => exact absurd (hcs '-' List.mem_cons_self) (by decide)
  | bare h =>
    cases h with
    | word h =>
      -- every word begins with a letter
      have hwords : literalWords.all (fun word =>
          word.head?.any fun c => !c.isDigit && c != '.') = true := by decide
      obtain ⟨letter, hletter, hother⟩ := (Option.any_eq_true _ _).1 (List.all_eq_true.1 hwords _ h)
      obtain ⟨c, hc, rfl⟩ := List.mem_map.1 (List.mem_of_mem_head? hletter)
      rw [toLower_of_digit_or_point (hcs c hc), Bool.and_eq_true, Bool.not_eq_true',
        bne_iff_ne] at hother
      exact absurd (hcs c hc) (not_or.2 ⟨Bool.eq_false_iff.1 hother.1, hother.2⟩)
    | number hdecimal hexponent =>
      cases hexponent with
      | absent => rwa [List.append_nil]
      | mark hmark _ =>
        have hletter := hcs _ (List.mem_append_right _ List.mem_cons_self)
        rcases hmark with rfl | rfl <;> exact absurd hletter (by decide)

/-- **Of the numbers in the digits of every script**, those that are literals are in ASCII. -/
theorem isLiteral_iff_of_signed (h : Signed (IsDecimalOf Text.isDecimalDigit) cs) :
    IsLiteral cs ↔ Signed IsDecimal cs := by
  refine ⟨fun hliteral => h.imp fun n hn hnumber => isDecimal_iff.2 ?_, Signed.isLiteral⟩
  have hascii : ∀ c ∈ n, Text.isDecimalDigit c = true → c.isDigit = true :=
    fun c hc => isDigit_of_isAscii (hliteral.ascii c (hn hc))
  obtain ⟨c, hc, hdigit⟩ := hnumber.hasDigit
  exact ⟨fun c hc => (hnumber.chars c hc).imp_left (hascii c hc), ⟨c, hc, hascii c hc hdigit⟩,
    hnumber.point⟩

end Decimal

end DeployLint
