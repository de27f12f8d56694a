import Mathlib.Algebra.Group.Int.Defs
import Mathlib.Algebra.Group.Nat.Defs
import DeployLint.Json.Reader
import DeployLint.Json.Writer
import DeployLint.Proofs.Text.Runs

/-!
# JSON — strings and whole numbers, written and read

The reader undoes what the writer does to a string, one character at a time:
an escape gives back its character, and a character that is not escaped
stands for itself (`stringTail_quoted`). The digits of a whole number that
fits sixty-four bits give back the number, as long as what follows does not
go on with it (`number_toDigits`).
-/

namespace DeployLint

namespace Json

variable {rest : List Char}

/-! ## Strings -/

theorem hexEscape_low {n : Nat} (hn : n < 0x100) :
    hexEscape ('0' :: '0' :: hexDigit (n / 16) :: hexDigit (n % 16) :: rest) = .ok (n, rest) := by
  have hbytes (c d : Char) : ¬ byteCount ('0' :: '0' :: c :: d :: rest) < 4 := by
    have hc := c.utf8Size_pos
    have hd := d.utf8Size_pos
    simp only [byteCount, List.foldr_cons, show Char.utf8Size '0' = 1 from rfl]
    omega
  have hzero : Text.hexValue? '0' = some 0 := rfl
  have hhigh : Text.hexValue? (hexDigit (n / 16)) = some (n / 16) :=
    Text.hexValue?_digitChar (n / 16) (by omega)
  have hlow : Text.hexValue? (hexDigit (n % 16)) = some (n % 16) :=
    Text.hexValue?_digitChar (n % 16) (by omega)
  have hnumber : Text.hexNumber? ['0', '0', hexDigit (n / 16), hexDigit (n % 16)] = some n := by
    simp only [Text.hexNumber?, List.foldlM_cons, List.foldlM_nil, hzero, hhigh, hlow,
      Option.map_some, Option.bind_eq_bind, Option.bind_some, Option.pure_def, Option.some.injEq]
    omega
  simp only [hexEscape, if_neg (hbytes _ _), List.take_succ_cons, List.take_zero, hnumber,
    List.drop_succ_cons, List.drop_zero]

/-- An escape by code point of a control character gives back the character. -/
theorem unicodeEscape_control {c : Char} (hc : c.toNat < 0x20) :
    unicodeEscape ('0' :: '0' :: hexDigit (c.toNat / 16) :: hexDigit (c.toNat % 16) :: rest) =
      .ok (c, rest) := by
  rw [unicodeEscape, hexEscape_low (by omega)]
  have hlone : (decide (0xDC00 ≤ c.toNat) && decide (c.toNat ≤ 0xDFFF)) = false := by
    rw [decide_eq_false (by omega), Bool.false_and]
  have hpair : (decide (0xD800 ≤ c.toNat) && decide (c.toNat ≤ 0xDBFF)) = false := by
    rw [decide_eq_false (by omega), Bool.false_and]
  simp only [hlone, hpair, Bool.false_eq_true, if_false, Char.ofNat_toNat]

/-- **A character is written as itself or as an escape**, and an escape gives
back its character. -/
theorem escapeChar_cases (c : Char) :
    (escapeChar c = [c] ∧ c ≠ '"' ∧ c ≠ '\\' ∧ ¬ c.toNat < 0x20) ∨
      ∃ mark, escapeChar c = '\\' :: mark ∧ ∀ rest, escape (mark ++ rest) = .ok (c, rest) := by
  unfold escapeChar
  split
  · rename_i h; subst h; exact .inr ⟨['"'], rfl, fun _ => rfl⟩
  split
  · rename_i h; subst h; exact .inr ⟨['\\'], rfl, fun _ => rfl⟩
  split
  · rename_i h; subst h; exact .inr ⟨['b'], rfl, fun _ => rfl⟩
  split
  · rename_i h; subst h; exact .inr ⟨['f'], rfl, fun _ => rfl⟩
  split
  · rename_i h; subst h; exact .inr ⟨['n'], rfl, fun _ => rfl⟩
  split
  · rename_i h; subst h; exact .inr ⟨['r'], rfl, fun _ => rfl⟩
  split
  · rename_i h; subst h; exact .inr ⟨['t'], rfl, fun _ => rfl⟩
  split
  · rename_i h; exact .inr ⟨_, rfl, fun _ => unicodeEscape_control h⟩
  · rename_i hquote hslash _ _ _ _ _ hcontrol
    exact .inl ⟨rfl, hquote, hslash, hcontrol⟩

/-- One character is read off a string. -/
theorem stringBody_escapeChar (fuel : Nat) (c : Char) :
    stringBody (fuel + 1) (escapeChar c ++ rest) =
      (stringBody fuel rest).map fun (s, rest) => (c :: s, rest) := by
  rcases escapeChar_cases c with ⟨hself, hquote, hslash, hcontrol⟩ | ⟨mark, hmark, hread⟩
  · rw [hself, List.singleton_append, stringBody, if_neg hquote, if_neg hslash, if_neg hcontrol]
  · rw [hmark, List.cons_append, stringBody, if_neg (by decide), if_pos rfl, hread]

/-- A string is read up to its closing quote, in a step for each character. -/
theorem stringBody_quoted {s : List Char} {fuel : Nat} (hfuel : s.length < fuel) :
    stringBody fuel (s.flatMap escapeChar ++ '"' :: rest) = .ok (s, rest) := by
  induction s generalizing fuel with
  | nil =>
    obtain ⟨fuel, rfl⟩ := Nat.exists_eq_add_one.2 hfuel
    rw [List.flatMap_nil, List.nil_append, stringBody, if_pos rfl]
  | cons c s ih =>
    obtain ⟨fuel, rfl⟩ := Nat.exists_eq_add_one.2 (Nat.zero_lt_of_lt hfuel)
    rw [List.flatMap_cons, List.append_assoc, stringBody_escapeChar,
      ih (Nat.lt_of_succ_lt_succ hfuel)]
    rfl

theorem length_le_length_flatMap_escapeChar (s : List Char) :
    s.length ≤ (s.flatMap escapeChar).length := by
  induction s with
  | nil => exact Nat.le_refl 0
  | cons c s ih =>
    have hpos : 0 < (escapeChar c).length := by
      rcases escapeChar_cases c with ⟨h, -⟩ | ⟨mark, h, -⟩
      · rw [h]; exact Nat.one_pos
      · rw [h]; exact Nat.succ_pos _
    rw [List.flatMap_cons, List.length_append, List.length_cons]
    omega

/-- **A quoted string is read back**, whatever its characters are. -/
theorem stringTail_quoted (s : String) :
    stringTail (s.toList.flatMap escapeChar ++ '"' :: rest) = .ok (s, rest) := by
  have hfuel : s.toList.length < (s.toList.flatMap escapeChar ++ '"' :: rest).length + 1 := by
    have := length_le_length_flatMap_escapeChar s.toList
    rw [List.length_append]
    omega
  rw [stringTail, stringBody_quoted hfuel, Except.map]
  exact congrArg (fun name => Except.ok (name, rest)) String.ofList_toList

/-! ## Whole numbers -/

/-- What a number reads no further into: nothing, a blank, or what may stand
behind a value. -/
def Ends (rest : List Char) : Prop :=
  ∀ c ∈ rest.head?, isSpace c = true ∨ c = ',' ∨ c = ']' ∨ c = '\x7d'

theorem Ends.stop (h : Ends rest) : ∀ c ∈ rest.head?,
    c.isDigit = false ∧ c ≠ '.' ∧ c ≠ 'e' ∧ c ≠ 'E' := by
  intro c hc
  rcases h c hc with hspace | rfl | rfl | rfl
  · simp only [isSpace, Bool.or_eq_true, decide_eq_true_eq] at hspace
    rcases hspace with ((rfl | rfl) | rfl) | rfl <;> decide
  · decide
  · decide
  · decide

/-- Digits are taken up to the first character that is none, where what they
stand for fits. -/
theorem takeDigits_append {digits : List Char} {start taken : Nat}
    (hdigits : ∀ c ∈ digits, c.isDigit = true)
    (hfits : Nat.ofDigitChars 10 digits start < 0x10000000000000000)
    (hrest : ∀ c ∈ rest.head?, c.isDigit = false) :
    takeDigits start taken (digits ++ rest) =
      (Nat.ofDigitChars 10 digits start, taken + digits.length, rest) := by
  induction digits generalizing start taken with
  | nil =>
    cases rest with
    | nil => rfl
    | cons c cs => simp [takeDigits, hrest c rfl]
  | cons c digits ih =>
    obtain ⟨hc, hdigits⟩ := List.forall_mem_cons.1 hdigits
    rw [Nat.ofDigitChars_cons] at hfits ⊢
    -- what was taken so far is no more than the whole
    have hsofar : 10 * start + digitValue c < 0x10000000000000000 := by
      refine Nat.lt_of_le_of_lt ?_ hfits
      rw [Nat.ofDigitChars_eq_ofDigitChars_zero]
      exact Nat.le_add_right_of_le (Nat.le_mul_of_pos_left _ (Nat.pow_pos (by decide)))
    rw [List.cons_append, takeDigits, if_pos (by rw [hc, decide_eq_true hsofar]; rfl),
      digitValue, ih hdigits hfits, List.length_cons, Nat.add_assoc, Nat.add_comm 1]

/-- The digits of a number begin with a digit. -/
theorem toDigits_eq_cons (n : Nat) :
    ∃ c cs, Nat.toDigits 10 n = c :: cs ∧ c.isDigit = true := by
  obtain ⟨c, cs, hcs⟩ := List.exists_cons_of_ne_nil (@Nat.toDigits_ne_nil n 10)
  exact ⟨c, cs, hcs, Nat.isDigit_of_mem_toDigits (by decide) (by decide)
    (hcs ▸ List.mem_cons_self)⟩

/-- Only zero begins with a zero. -/
theorem head?_toDigits_ne_zero {n : Nat} (hn : 0 < n) : (Nat.toDigits 10 n).head? ≠ some '0' := by
  induction n using Nat.strong_induction_on with
  | _ n ih =>
    by_cases hsmall : n < 10
    · have hdigit : ∀ n < 10, 0 < n → [Nat.digitChar n].head? ≠ some '0' := by decide
      rw [Nat.toDigits_of_lt_base hsmall]
      exact hdigit n hsmall hn
    · rw [Nat.toDigits_of_base_le (by decide) (by omega),
        List.head?_append_of_ne_nil _ Nat.toDigits_ne_nil]
      exact ih (n / 10) (by omega) (by omega)

/-- **The digits of a whole number are read back**, where it fits sixty-four
bits. -/
theorem number_toDigits {negative : Bool} {n : Nat} (hn : n < 0x10000000000000000) (hrest : Ends rest) :
    number negative (Nat.toDigits 10 n ++ rest) = .ok (wholeNumber negative n, rest) := by
  have hdigits : ∀ c ∈ Nat.toDigits 10 n, c.isDigit = true :=
    fun c hc => Nat.isDigit_of_mem_toDigits (by decide) (by decide) hc
  have hvalue : Nat.ofDigitChars 10 (Nat.toDigits 10 n) 0 = n :=
    Nat.ofDigitChars_toDigits (by decide) (by decide)
  have hstop : ∀ c ∈ rest.head?, c.isDigit = false := fun c hc => (hrest.stop c hc).1
  have htake : takeDigits 0 0 (Nat.toDigits 10 n ++ rest) =
      (n, (Nat.toDigits 10 n).length, rest) := by
    rw [takeDigits_append hdigits (hvalue.symm ▸ hn) hstop, hvalue, Nat.zero_add]
  have hzero : (Nat.toDigits 10 n).head? = some '0' → n = 0 := by
    intro h
    by_contra hne
    exact head?_toDigits_ne_zero (Nat.pos_of_ne_zero hne) h
  have hmark : rest.head?.any (fun c => decide (c = 'e') || decide (c = 'E')) = false := by
    refine (Option.any_eq_false _ _).2 fun c hc => ?_
    obtain ⟨-, -, hlower, hupper⟩ := hrest.stop c hc
    rw [decide_eq_false hlower, decide_eq_false hupper, Bool.false_or]
  -- rules out the fraction where `simp` opens the match on what follows
  have hpoint : ∀ more, rest ≠ '.' :: more := by
    rintro more rfl
    exact (hrest.stop '.' rfl).2.1 rfl
  obtain ⟨c, cs, hcs, hc⟩ := toDigits_eq_cons n
  rw [hcs] at htake hzero ⊢
  have hlone : (decide (c = '0') && (cs ++ rest).head?.any Char.isDigit) = false := by
    by_cases hfirst : c = '0'
    · -- only zero begins so, and it has no second digit
      rw [hzero (congrArg some hfirst), Nat.toDigits_zero] at hcs
      obtain rfl := (List.cons.inj hcs).2
      rw [List.nil_append, (Option.any_eq_false _ _).2 hstop, Bool.and_false]
    · rw [decide_eq_false hfirst, Bool.false_and]
  simp only [List.cons_append] at htake ⊢
  simp only [number, hc, Bool.not_true, Bool.false_eq_true, if_false,
    hlone, htake, Text.takeWhile_eq_nil_of_stop hstop, Text.dropWhile_eq_self_of_stop hstop,
    hmark]
  exact if_pos rfl

end Json

end DeployLint
