import DeployLint.Decimal.Literal
import DeployLint.Proofs.Text.Runs

/-!
# Decimal — the grammar of number literals

Which texts are literals, said without the reader: `IsLiteral` is a grammar
of signs, digits, points, exponents and words. `literalChars?` reads exactly
the texts of that grammar (`isSome_literalChars?_iff`). An `IsDecimal` is a
literal of digits and at most one point. A literal ends with one of few
characters (`IsLiteral.endsLiteral`).
-/

namespace DeployLint

namespace Decimal

/-! ## The grammar -/

/-- Digits of ASCII, at least one. -/
def IsDigits (cs : List Char) : Prop := cs ≠ [] ∧ ∀ c ∈ cs, c.isDigit = true

/-- A decimal number without a sign: digits with an optional point and
further digits, or a point and digits. -/
inductive IsDecimal : List Char → Prop
  | whole {digits : List Char} : IsDigits digits → IsDecimal digits
  | point {whole fraction : List Char} :
      IsDigits (whole ++ fraction) → IsDecimal (whole ++ '.' :: fraction)

/-- Texts of a kind, and those with one sign in front. -/
inductive Signed (P : List Char → Prop) : List Char → Prop
  | bare {cs : List Char} : P cs → Signed P cs
  | plus {cs : List Char} : P cs → Signed P ('+' :: cs)
  | minus {cs : List Char} : P cs → Signed P ('-' :: cs)

/-- What may follow a decimal number: nothing, or an exponent behind its mark. -/
inductive IsExponent : List Char → Prop
  | absent : IsExponent []
  | mark {c : Char} {cs : List Char} : c = 'e' ∨ c = 'E' → Signed IsDigits cs → IsExponent (c :: cs)

/-- The words for infinity and for no number, in lower case. -/
def literalWords : List (List Char) :=
  [['i', 'n', 'f'], ['i', 'n', 'f', 'i', 'n', 'i', 't', 'y'], ['n', 'a', 'n']]

/-- A literal without a sign. -/
inductive IsMagnitude : List Char → Prop
  | word {cs : List Char} : cs.map Char.toLower ∈ literalWords → IsMagnitude cs
  | number {decimal exponent : List Char} :
      IsDecimal decimal → IsExponent exponent → IsMagnitude (decimal ++ exponent)

/-- A literal. -/
def IsLiteral (cs : List Char) : Prop := Signed IsMagnitude cs

theorem IsDecimal.isMagnitude {cs : List Char} (h : IsDecimal cs) : IsMagnitude cs := by
  have hnumber := IsMagnitude.number h .absent
  rwa [List.append_nil] at hnumber

/-- A decimal number with or without a sign is a literal. -/
theorem Signed.isLiteral {cs : List Char} (h : Signed IsDecimal cs) : IsLiteral cs := by
  cases h with
  | bare h => exact .bare h.isMagnitude
  | plus h => exact .plus h.isMagnitude
  | minus h => exact .minus h.isMagnitude

/-! ## How the texts begin and end -/

theorem IsDigits.head_ne_sign {cs : List Char} (h : IsDigits cs) :
    ∀ c ∈ cs.head?, c ≠ '+' ∧ c ≠ '-' := by
  intro c hc
  have hdigit := h.2 c (List.mem_of_mem_head? hc)
  constructor <;> rintro rfl <;> exact absurd hdigit (by decide)

/-- A decimal number begins with a digit, or with a point and a digit. -/
theorem IsDecimal.head {cs : List Char} (h : IsDecimal cs) :
    ∃ c rest, c.isDigit = true ∧ (cs = c :: rest ∨ cs = '.' :: c :: rest) := by
  cases h with
  | whole h =>
    obtain ⟨c, rest, rfl⟩ := List.exists_cons_of_ne_nil h.1
    exact ⟨c, rest, h.2 c List.mem_cons_self, .inl rfl⟩
  | @point whole fraction h =>
    cases whole with
    | nil =>
      obtain ⟨c, rest, rfl⟩ := List.exists_cons_of_ne_nil h.1
      exact ⟨c, rest, h.2 c List.mem_cons_self, .inr rfl⟩
    | cons c rest => exact ⟨c, rest ++ '.' :: fraction, h.2 c List.mem_cons_self, .inl rfl⟩

/-- A literal without a sign begins with none. -/
theorem IsMagnitude.head_ne_sign {cs : List Char} (h : IsMagnitude cs) :
    ∀ c ∈ cs.head?, c ≠ '+' ∧ c ≠ '-' := by
  cases h with
  | word h =>
    intro c hc
    cases cs with
    | nil => exact nomatch hc
    | cons d rest =>
      obtain rfl := Option.some.inj hc
      rw [List.map_cons] at h
      constructor <;> rintro rfl <;> simp [literalWords] at h
  | number hdecimal _ =>
    obtain ⟨d, rest, hd, rfl | rfl⟩ := hdecimal.head
    · intro c hc
      obtain rfl := Option.some.inj hc
      constructor <;> rintro rfl <;> exact absurd hd (by decide)
    · intro c hc
      obtain rfl := Option.some.inj hc
      decide

/-- What follows a decimal number begins with neither a digit nor a point. -/
theorem IsExponent.stop {cs : List Char} (h : IsExponent cs) :
    ∀ c ∈ cs.head?, c.isDigit = false ∧ c ≠ '.' := by
  cases h with
  | absent => exact fun c hc => nomatch hc
  | mark h _ =>
    intro c hc
    obtain rfl := Option.some.inj hc
    rcases h with rfl | rfl <;> decide

/-- The characters that literals end with: digits, the point and the last
letters of the words. -/
def isFinal (c : Char) : Bool := c.isDigit || c == '.' || ['f', 'y', 'n'].contains c.toLower

theorem isFinal_of_isDigit {c : Char} (h : c.isDigit = true) : isFinal c = true := by
  rw [isFinal, h, Bool.true_or, Bool.true_or]

/-- A text ends as literals do. -/
def EndsLiteral (cs : List Char) : Prop := ∃ init last, cs = init ++ [last] ∧ isFinal last = true

theorem EndsLiteral.append {cs : List Char} (h : EndsLiteral cs) (start : List Char) :
    EndsLiteral (start ++ cs) := by
  obtain ⟨init, last, rfl, hlast⟩ := h
  exact ⟨start ++ init, last, (List.append_assoc start init [last]).symm, hlast⟩

theorem IsDigits.endsLiteral {cs : List Char} (h : IsDigits cs) : EndsLiteral cs := by
  obtain ⟨init, last, rfl⟩ := (List.eq_nil_or_concat cs).resolve_left h.1
  rw [List.concat_eq_append] at h ⊢
  exact ⟨init, last, rfl,
    isFinal_of_isDigit (h.2 last (List.mem_append_right _ List.mem_cons_self))⟩

theorem IsDecimal.endsLiteral {cs : List Char} (h : IsDecimal cs) : EndsLiteral cs := by
  cases h with
  | whole h => exact h.endsLiteral
  | @point whole fraction h =>
    by_cases hfraction : fraction = []
    · exact ⟨whole, '.', by rw [hfraction], rfl⟩
    · have hdigits : IsDigits fraction := ⟨hfraction, (List.forall_mem_append.1 h.2).2⟩
      exact (hdigits.endsLiteral.append ['.']).append whole

theorem IsMagnitude.endsLiteral {cs : List Char} (h : IsMagnitude cs) : EndsLiteral cs := by
  cases h with
  | word h =>
    have hne : cs ≠ [] := by
      rintro rfl
      exact absurd h (by decide)
    obtain ⟨init, last, rfl⟩ := (List.eq_nil_or_concat cs).resolve_left hne
    rw [List.concat_eq_append] at h ⊢
    have hlast : ∀ word ∈ literalWords, word.getLast?.all (['f', 'y', 'n'].contains ·) = true := by
      decide
    have hword : last.toLower ∈ ((init ++ [last]).map Char.toLower).getLast? := by
      rw [List.map_append, List.map_singleton, List.getLast?_concat]
      rfl
    refine ⟨init, last, rfl, ?_⟩
    rw [isFinal, (Option.all_eq_true _ _).1 (hlast _ h) last.toLower hword, Bool.or_true]
  | number hdecimal hexponent =>
    cases hexponent with
    | absent =>
      rw [List.append_nil]
      exact hdecimal.endsLiteral
    | @mark c cs _ hcs =>
      refine EndsLiteral.append ?_ _
      cases hcs with
      | bare h => exact h.endsLiteral.append [c]
      | plus h => exact h.endsLiteral.append [c, '+']
      | minus h => exact h.endsLiteral.append [c, '-']

/-- **A literal ends with one of few characters**. -/
theorem IsLiteral.endsLiteral {cs : List Char} (h : IsLiteral cs) : EndsLiteral cs := by
  cases h with
  | bare h => exact h.endsLiteral
  | plus h => exact h.endsLiteral.append ['+']
  | minus h => exact h.endsLiteral.append ['-']

/-- Digits with at most one point among them are a decimal number. -/
theorem isDecimal_of_count_point_le {cs : List Char}
    (hcs : ∀ c ∈ cs, c.isDigit = true ∨ c = '.') (hdigit : ∃ c ∈ cs, c.isDigit = true)
    (hcount : cs.count '.' ≤ 1) : IsDecimal cs := by
  by_cases hpoint : '.' ∈ cs
  · obtain ⟨whole, fraction, rfl⟩ := List.append_of_mem hpoint
    -- the one point stands between the two parts, so neither has another
    rw [List.count_append, List.count_cons_self] at hcount
    have hwhole : '.' ∉ whole := List.count_eq_zero.1 (by omega)
    have hfraction : '.' ∉ fraction := List.count_eq_zero.1 (by omega)
    have hdigits : ∀ c ∈ whole ++ fraction, c.isDigit = true := by
      refine List.forall_mem_append.2 ⟨fun c hc => ?_, fun c hc => ?_⟩
      · exact (hcs c (List.mem_append_left _ hc)).resolve_right fun heq => hwhole (heq ▸ hc)
      · exact (hcs c (List.mem_append_right _ (List.mem_cons_of_mem _ hc))).resolve_right
          fun heq => hfraction (heq ▸ hc)
    refine .point ⟨?_, hdigits⟩
    obtain ⟨c, hc, hdigit⟩ := hdigit
    rintro hnil
    obtain ⟨rfl, rfl⟩ := List.append_eq_nil_iff.1 hnil
    obtain rfl := List.mem_singleton.1 hc
    exact absurd hdigit (by decide)
  · obtain ⟨c, hc, -⟩ := hdigit
    exact .whole ⟨List.ne_nil_of_mem hc,
      fun c hc => (hcs c hc).resolve_right fun heq => hpoint (heq ▸ hc)⟩

/-! ## Signs -/

/-- A text begins with one of two signs, or with none. -/
theorem sign_cases (cs : List Char) :
    (∃ rest, cs = '-' :: rest) ∨ (∃ rest, cs = '+' :: rest) ∨
      ∀ c ∈ cs.head?, c ≠ '+' ∧ c ≠ '-' := by
  cases cs with
  | nil => exact .inr (.inr fun c hc => nomatch hc)
  | cons c rest =>
    by_cases hminus : c = '-'
    · exact .inl ⟨rest, by rw [hminus]⟩
    · by_cases hplus : c = '+'
      · exact .inr (.inl ⟨rest, by rw [hplus]⟩)
      · refine .inr (.inr fun d hd => ?_)
        obtain rfl := Option.some.inj hd
        exact ⟨hplus, hminus⟩

section Signs

variable {P : List Char → Prop} {cs : List Char}

/-- Where texts of a kind begin with no sign, a minus in front is the sign. -/
theorem signed_minus_iff (hP : ∀ {cs}, P cs → ∀ c ∈ cs.head?, c ≠ '+' ∧ c ≠ '-') :
    Signed P ('-' :: cs) ↔ P cs := by
  refine ⟨fun h => ?_, .minus⟩
  cases h with
  | bare h => exact absurd rfl (hP h '-' rfl).2
  | minus h => exact h

theorem signed_plus_iff (hP : ∀ {cs}, P cs → ∀ c ∈ cs.head?, c ≠ '+' ∧ c ≠ '-') :
    Signed P ('+' :: cs) ↔ P cs := by
  refine ⟨fun h => ?_, .plus⟩
  cases h with
  | bare h => exact absurd rfl (hP h '+' rfl).1
  | plus h => exact h

theorem signed_bare_iff (hcs : ∀ c ∈ cs.head?, c ≠ '+' ∧ c ≠ '-') : Signed P cs ↔ P cs := by
  refine ⟨fun h => ?_, .bare⟩
  cases h with
  | bare h => exact h
  | plus h => exact absurd rfl (hcs '+' rfl).1
  | minus h => exact absurd rfl (hcs '-' rfl).2

end Signs

/-! ## The reader reads the grammar -/

theorem isDigits_iff {cs : List Char} :
    IsDigits cs ↔ (cs.isEmpty || !cs.all Char.isDigit) = false := by
  rw [IsDigits, Bool.or_eq_false_iff, Bool.not_eq_false', List.all_eq_true, ne_eq,
    ← List.isEmpty_iff, Bool.not_eq_true]

theorem isSome_exponentPart?_iff {cs : List Char} :
    (exponentPart? cs).isSome = true ↔ IsExponent cs := by
  cases cs with
  | nil => exact ⟨fun _ => .absent, fun _ => rfl⟩
  | cons c rest =>
    have hmark : IsExponent (c :: rest) ↔ (c = 'e' ∨ c = 'E') ∧ Signed IsDigits rest :=
      ⟨fun h => by cases h with | mark hc hrest => exact ⟨hc, hrest⟩, fun h => .mark h.1 h.2⟩
    have hsome {marked unread : Bool} {e : Int} :
        (if marked then (if unread then none else some e) else none).isSome = true ↔
          marked = true ∧ unread = false := by
      cases marked <;> cases unread <;> simp
    rw [hmark]
    rcases sign_cases rest with ⟨digits, rfl⟩ | ⟨digits, rfl⟩ | hbare
    · rw [exponentPart?, signed_minus_iff IsDigits.head_ne_sign, isDigits_iff, hsome,
        Bool.or_eq_true, decide_eq_true_eq, decide_eq_true_eq]
    · rw [exponentPart?, signed_plus_iff IsDigits.head_ne_sign, isDigits_iff, hsome,
        Bool.or_eq_true, decide_eq_true_eq, decide_eq_true_eq]
    · rw [exponentPart?, signed_bare_iff hbare, isDigits_iff, hsome, Bool.or_eq_true,
        decide_eq_true_eq, decide_eq_true_eq]
      · rintro digits rfl
        exact (hbare '-' rfl).2 rfl
      · rintro digits rfl
        exact (hbare '+' rfl).1 rfl

section Unsigned

variable {whole fraction after : List Char} (hwhole : ∀ c ∈ whole, c.isDigit = true)

include hwhole

/-- What is read where digits are followed by no point. -/
theorem isSome_unsigned?_whole_iff (hafter : ∀ c ∈ after.head?, c.isDigit = false ∧ c ≠ '.') :
    (unsigned? (whole ++ after)).isSome = true ↔ whole ≠ [] ∧ IsExponent after := by
  have hstop : ∀ c ∈ after.head?, c.isDigit = false := fun c hc => (hafter c hc).1
  have hpoint : ∀ more, after ≠ '.' :: more := by
    rintro more rfl
    exact (hafter '.' rfl).2 rfl
  rw [unsigned?, Text.takeWhile_append_of_stop hwhole hstop,
    Text.dropWhile_append_of_stop hwhole hstop]
  split
  rename_i heq
  split at heq
  · exact absurd rfl (hpoint _)
  · obtain ⟨rfl, rfl⟩ := Prod.mk.inj heq
    rw [List.isEmpty_nil, Bool.and_true, ← isSome_exponentPart?_iff, ne_eq, ← List.isEmpty_iff]
    cases whole.isEmpty <;> simp

/-- What is read where digits are followed by a point. -/
theorem isSome_unsigned?_point_iff (hfraction : ∀ c ∈ fraction, c.isDigit = true)
    (hafter : ∀ c ∈ after.head?, c.isDigit = false) :
    (unsigned? (whole ++ '.' :: (fraction ++ after))).isSome = true ↔
      whole ++ fraction ≠ [] ∧ IsExponent after := by
  have hstop : ∀ c ∈ ('.' :: (fraction ++ after)).head?, c.isDigit = false := by
    intro c hc
    obtain rfl := Option.some.inj hc
    rfl
  rw [unsigned?, Text.takeWhile_append_of_stop hwhole hstop,
    Text.dropWhile_append_of_stop hwhole hstop]
  simp only [Text.takeWhile_append_of_stop hfraction hafter,
    Text.dropWhile_append_of_stop hfraction hafter]
  rw [← isSome_exponentPart?_iff, ne_eq, List.append_eq_nil_iff, ← List.isEmpty_iff,
    ← List.isEmpty_iff, ← Bool.and_eq_true]
  cases whole.isEmpty && fraction.isEmpty <;> simp

end Unsigned

theorem isSome_unsigned?_iff {cs : List Char} :
    (unsigned? cs).isSome = true ↔
      ∃ decimal exponent, cs = decimal ++ exponent ∧ IsDecimal decimal ∧ IsExponent exponent := by
  constructor
  · intro h
    -- what precedes the exponent are digits, then perhaps a point and digits
    obtain ⟨whole, after, rfl, hwhole, hafter⟩ := Text.exists_run Char.isDigit cs
    by_cases hpoint : '.' ∈ after.head?
    · obtain ⟨more, rfl⟩ := List.head?_eq_some_iff.1 hpoint
      obtain ⟨fraction, rest, rfl, hfraction, hrest⟩ := Text.exists_run Char.isDigit more
      obtain ⟨hne, hexponent⟩ := (isSome_unsigned?_point_iff hwhole hfraction hrest).1 h
      have hdigits : IsDigits (whole ++ fraction) :=
        ⟨hne, List.forall_mem_append.2 ⟨hwhole, hfraction⟩⟩
      exact ⟨whole ++ '.' :: fraction, rest, by simp, .point hdigits, hexponent⟩
    · have hstop : ∀ c ∈ after.head?, c.isDigit = false ∧ c ≠ '.' :=
        fun c hc => ⟨hafter c hc, fun heq => hpoint (heq ▸ hc)⟩
      obtain ⟨hne, hexponent⟩ := (isSome_unsigned?_whole_iff hwhole hstop).1 h
      exact ⟨whole, after, rfl, .whole ⟨hne, hwhole⟩, hexponent⟩
  · rintro ⟨decimal, exponent, rfl, hdecimal, hexponent⟩
    cases hdecimal with
    | whole hdigits =>
      exact (isSome_unsigned?_whole_iff hdigits.2 hexponent.stop).2 ⟨hdigits.1, hexponent⟩
    | @point whole fraction hdigits =>
      obtain ⟨hwhole, hfraction⟩ := List.forall_mem_append.1 hdigits.2
      rw [List.append_assoc, List.cons_append]
      exact (isSome_unsigned?_point_iff hwhole hfraction fun c hc => (hexponent.stop c hc).1).2
        ⟨hdigits.1, hexponent⟩

theorem isSome_magnitude?_iff {cs : List Char} :
    (magnitude? cs).isSome = true ↔ IsMagnitude cs := by
  have hmagnitude : IsMagnitude cs ↔
      cs.map Char.toLower ∈ literalWords ∨ (unsigned? cs).isSome = true := by
    rw [isSome_unsigned?_iff]
    constructor
    · rintro (hword | ⟨hdecimal, hexponent⟩)
      · exact .inl hword
      · exact .inr ⟨_, _, rfl, hdecimal, hexponent⟩
    · rintro (hword | ⟨decimal, exponent, rfl, hdecimal, hexponent⟩)
      · exact .word hword
      · exact .number hdecimal hexponent
  rw [hmagnitude, magnitude?, literalWords]
  simp only [List.mem_cons, List.not_mem_nil, or_false, Bool.or_eq_true, decide_eq_true_eq]
  split
  · rename_i h
    exact ⟨fun _ => .inl (by tauto), fun _ => rfl⟩
  · split
    · rename_i h
      exact ⟨fun _ => .inl (.inr (.inr h)), fun _ => rfl⟩
    · tauto

/-- **A text is read as a literal exactly when it is one.** -/
theorem isSome_literalChars?_iff {cs : List Char} :
    (literalChars? cs).isSome = true ↔ IsLiteral cs := by
  rw [IsLiteral]
  rcases sign_cases cs with ⟨rest, rfl⟩ | ⟨rest, rfl⟩ | hbare
  · rw [literalChars?, Option.isSome_map, signed_minus_iff IsMagnitude.head_ne_sign,
      isSome_magnitude?_iff]
  · rw [literalChars?, signed_plus_iff IsMagnitude.head_ne_sign, isSome_magnitude?_iff]
  · rw [literalChars?, signed_bare_iff hbare, isSome_magnitude?_iff]
    · rintro rest rfl
      exact (hbare '-' rfl).2 rfl
    · rintro rest rfl
      exact (hbare '+' rfl).1 rfl

end Decimal

end DeployLint
