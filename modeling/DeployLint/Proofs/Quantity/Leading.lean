import Mathlib.Data.Set.Finite.Lemmas
import Mathlib.Data.Set.Finite.List
import DeployLint.Proofs.Decimal.Digits
import DeployLint.Quantity.Basic

/-!
# Quantities — the number that a text begins with

A text begins with many numbers, such as `1`, `12` and `12.` where it is `12.K`;
the one that is read is the longest (`Leads`). `leadingNumber?` finds the longest
number in the digits of every script (`leadingNumber?_eq_some_iff`), while a
literal is in ASCII. The longest number in ASCII is what is found
(`leadingNumber?_of_leads`), unless a digit of another script follows it: then
what is found goes on with that digit and is no literal
(`not_isLiteral_of_leads`). So it is told which texts have a value by their
beginnings (`bind_leadingNumber?_of_leads`).
-/

namespace DeployLint

namespace Quantity

open Decimal

/-! ## The longest beginning -/

/-- The longest of the texts of a kind that a text begins with. -/
structure Leads (P : List Char → Prop) (number cs : List Char) : Prop where
  isNumber : P number
  begins : number <+: cs
  longest : ∀ other, P other → other <+: cs → other.length ≤ number.length

variable {P : List Char → Prop} {number other cs rest : List Char}

theorem Leads.other_prefix (h : Leads P number cs) (hother : P other) (hbegins : other <+: cs) :
    other <+: number :=
  List.prefix_of_prefix_length_le hbegins h.begins (h.longest other hother hbegins)

/-- Only one is the longest. -/
theorem Leads.unique (h : Leads P number cs) (hother : Leads P other cs) : number = other :=
  (hother.other_prefix h.isNumber h.begins).eq_of_length_le
    (h.longest other hother.isNumber hother.begins)

/-- What begins with any begins with a longest. -/
theorem exists_leads_iff : (∃ number, Leads P number cs) ↔ ∃ number, P number ∧ number <+: cs := by
  refine ⟨fun ⟨number, h⟩ => ⟨number, h.isNumber, h.begins⟩, fun ⟨number, hnumber, hbegins⟩ => ?_⟩
  have hfinite : {number | P number ∧ number <+: cs}.Finite :=
    cs.inits.finite_toSet.subset fun n hn => (List.mem_inits n cs).2 hn.2
  obtain ⟨n, hn, hlongest⟩ :=
    Set.exists_max_image _ List.length hfinite ⟨number, hnumber, hbegins⟩
  exact ⟨n, hn.1, hn.2, fun other hother hbegins => hlongest other ⟨hother, hbegins⟩⟩

/-! ## Numbers without a sign -/

section Leading

variable {whole fraction after : List Char}
variable (hwhole : ∀ c ∈ whole, Text.isDecimalDigit c = true)

include hwhole

theorem leadingDecimal?_whole
    (hafter : ∀ c ∈ after.head?, Text.isDecimalDigit c = false ∧ c ≠ '.') :
    leadingDecimal? (whole ++ after) = if whole = [] then none else some whole := by
  have hstop : ∀ c ∈ after.head?, Text.isDecimalDigit c = false := fun c hc => (hafter c hc).1
  have hpoint : ∀ more, after ≠ '.' :: more := by
    rintro more rfl
    exact (hafter '.' rfl).2 rfl
  rw [leadingDecimal?, Text.takeWhile_append_of_stop hwhole hstop,
    Text.dropWhile_append_of_stop hwhole hstop]
  split
  · exact absurd rfl (hpoint _)
  · rename_i h _
    rw [if_pos (List.isEmpty_iff.1 h)]
  · exact absurd rfl (hpoint _)
  · rename_i h _
    rw [if_neg (List.isEmpty_eq_false_iff.1 h)]

theorem leadingDecimal?_point (hfraction : ∀ c ∈ fraction, Text.isDecimalDigit c = true)
    (hafter : ∀ c ∈ after.head?, Text.isDecimalDigit c = false) :
    leadingDecimal? (whole ++ '.' :: (fraction ++ after)) =
      if whole ++ fraction = [] then none else some (whole ++ '.' :: fraction) := by
  have hstop : ∀ c ∈ ('.' :: (fraction ++ after)).head?, Text.isDecimalDigit c = false := by
    intro c hc
    obtain rfl := Option.some.inj hc
    rfl
  rw [leadingDecimal?, Text.takeWhile_append_of_stop hwhole hstop,
    Text.dropWhile_append_of_stop hwhole hstop]
  cases whole with
  | nil =>
    simp only [List.isEmpty_nil, Text.takeWhile_append_of_stop hfraction hafter, List.nil_append,
      List.isEmpty_iff]
  | cons c whole =>
    simp only [List.isEmpty_cons, Text.takeWhile_append_of_stop hfraction hafter,
      List.cons_append, reduceCtorEq, if_false]

end Leading

/-- The digits that a text begins with, with a point among them or not, are what
is found if there are any. -/
theorem exists_leading_run (cs : List Char) :
    ∃ run rest, cs = run ++ rest ∧
      (∀ c ∈ rest.head?, Text.isDecimalDigit c = false ∧ (c = '.' → '.' ∈ run)) ∧
      (leadingDecimal? cs = none ∧ (∀ c ∈ run, Text.isDecimalDigit c = false) ∨
        leadingDecimal? cs = some run ∧ IsDecimalOf Text.isDecimalDigit run) := by
  obtain ⟨whole, after, rfl, hwhole, hafter⟩ := Text.exists_run Text.isDecimalDigit cs
  by_cases hpoint : '.' ∈ after.head?
  · obtain ⟨more, rfl⟩ := List.head?_eq_some_iff.1 hpoint
    obtain ⟨fraction, rest, rfl, hfraction, hrest⟩ := Text.exists_run Text.isDecimalDigit more
    refine ⟨whole ++ '.' :: fraction, rest, by simp, fun c hc => ⟨hrest c hc, fun _ => by simp⟩, ?_⟩
    rw [leadingDecimal?_point hwhole hfraction hrest]
    split
    · rename_i hnil
      obtain ⟨rfl, rfl⟩ := List.append_eq_nil_iff.1 hnil
      exact .inl ⟨rfl, List.forall_mem_singleton.2 rfl⟩
    · rename_i hne
      exact .inr ⟨rfl, .of_point rfl hne (List.forall_mem_append.2 ⟨hwhole, hfraction⟩)⟩
  · have hstop : ∀ c ∈ after.head?, Text.isDecimalDigit c = false ∧ c ≠ '.' :=
      fun c hc => ⟨hafter c hc, fun heq => hpoint (heq ▸ hc)⟩
    refine ⟨whole, after, rfl, fun c hc => ⟨hafter c hc, fun h => absurd h (hstop c hc).2⟩, ?_⟩
    rw [leadingDecimal?_whole hwhole hstop]
    split
    · rename_i hnil
      exact .inl ⟨rfl, hnil ▸ List.forall_mem_nil _⟩
    · rename_i hne
      exact .inr ⟨rfl, .of_digits rfl hne hwhole⟩

/-- **What is found is the longest number** in the digits of every script. -/
theorem leadingDecimal?_eq_some_iff :
    leadingDecimal? cs = some number ↔ Leads (IsDecimalOf Text.isDecimalDigit) number cs := by
  obtain ⟨run, rest, rfl, hstop, ⟨hread, hnone⟩ | ⟨hread, hrun⟩⟩ := exists_leading_run cs
  · rw [hread]
    refine iff_of_false (fun h => nomatch h) fun h => ?_
    obtain ⟨c, hc, hdigit⟩ := h.isNumber.hasDigit
    have hbegins : number <+: run := List.prefix_of_prefix_length_le h.begins
      (List.prefix_append run rest) (h.isNumber.length_le_of_stop h.begins hstop)
    exact Bool.false_ne_true ((hnone c (hbegins.subset hc)).symm.trans hdigit)
  · have hleads : Leads (IsDecimalOf Text.isDecimalDigit) run (run ++ rest) :=
      ⟨hrun, List.prefix_append run rest,
        fun other hother hbegins => hother.length_le_of_stop hbegins hstop⟩
    rw [hread, Option.some.injEq]
    exact ⟨fun h => h ▸ hleads, fun h => hleads.unique h⟩

/-! ## Numbers with a sign -/

/-- A sign in front stays in front of the longest number. -/
theorem leads_signed_cons_iff {sign : Char} (hnil : ¬ P [])
    (hsign : ∀ cs, Signed P (sign :: cs) ↔ P cs) :
    Leads (Signed P) number (sign :: cs) ↔ ∃ n, Leads P n cs ∧ sign :: n = number := by
  have hne : ¬ Signed P [] := fun h => by cases h with | bare h => exact hnil h
  constructor
  · intro h
    cases number with
    | nil => exact absurd h.isNumber hne
    | cons c n =>
      obtain ⟨rfl, hbegins⟩ := List.cons_prefix_cons.1 h.begins
      refine ⟨n, ⟨(hsign n).1 h.isNumber, hbegins, fun other hother hother' => ?_⟩, rfl⟩
      exact Nat.le_of_succ_le_succ
        (h.longest (c :: other) ((hsign other).2 hother) (List.cons_prefix_cons.2 ⟨rfl, hother'⟩))
  · rintro ⟨n, h, rfl⟩
    refine ⟨(hsign n).2 h.isNumber, List.cons_prefix_cons.2 ⟨rfl, h.begins⟩, ?_⟩
    intro other hother hbegins
    cases other with
    | nil => exact absurd hother hne
    | cons c other =>
      obtain ⟨rfl, htail⟩ := List.cons_prefix_cons.1 hbegins
      exact Nat.succ_le_succ (h.longest other ((hsign other).1 hother) htail)

/-- So does none. -/
theorem leads_signed_bare_iff (hcs : ∀ c ∈ cs.head?, c ≠ '+' ∧ c ≠ '-') :
    Leads (Signed P) number cs ↔ Leads P number cs := by
  have hsigned : ∀ n, n <+: cs → (Signed P n ↔ P n) := by
    intro n hn
    refine signed_bare_iff fun c hc => hcs c ?_
    obtain ⟨rest, rfl⟩ := hn
    rw [List.head?_append, Option.mem_def.1 hc]
    rfl
  constructor
  · exact fun h => ⟨(hsigned _ h.begins).1 h.isNumber, h.begins,
      fun other hother hbegins => h.longest other ((hsigned _ hbegins).2 hother) hbegins⟩
  · exact fun h => ⟨(hsigned _ h.begins).2 h.isNumber, h.begins,
      fun other hother hbegins => h.longest other ((hsigned _ hbegins).1 hother) hbegins⟩

/-- **What is found is the longest number**, with or without a sign. -/
theorem leadingNumber?_eq_some_iff :
    leadingNumber? cs = some number ↔
      Leads (Signed (IsDecimalOf Text.isDecimalDigit)) number cs := by
  have hnil : ¬ IsDecimalOf Text.isDecimalDigit [] := fun h =>
    h.hasDigit.elim fun _ hc => absurd hc.1 List.not_mem_nil
  have hsign : ∀ {n}, IsDecimalOf Text.isDecimalDigit n → ∀ c ∈ n.head?, c ≠ '+' ∧ c ≠ '-' :=
    IsDecimalOf.head_ne_sign rfl rfl
  rcases sign_cases cs with ⟨rest, rfl⟩ | ⟨rest, rfl⟩ | hbare
  · rw [leadingNumber?, leads_signed_cons_iff hnil fun _ => signed_minus_iff hsign,
      Option.map_eq_some_iff]
    simp only [leadingDecimal?_eq_some_iff]
  · rw [leadingNumber?, leads_signed_cons_iff hnil fun _ => signed_plus_iff hsign,
      Option.map_eq_some_iff]
    simp only [leadingDecimal?_eq_some_iff]
  · rw [leads_signed_bare_iff hbare, ← leadingDecimal?_eq_some_iff, leadingNumber?]
    · rintro rest rfl
      exact (hbare '+' rfl).1 rfl
    · rintro rest rfl
      exact (hbare '-' rfl).2 rfl

/-- **The longest number is told by what follows it**: no digit, and no point
unless it has one. -/
theorem leads_of_stop {digit : Char → Bool} (hnumber : Signed (IsDecimalOf digit) number)
    (hstop : ∀ c ∈ rest.head?, ¬ (digit c = true ∨ c = '.' ∧ '.' ∉ number)) :
    Leads (Signed (IsDecimalOf digit)) number (number ++ rest) := by
  refine ⟨hnumber, List.prefix_append number rest, fun other hother hbegins => ?_⟩
  by_contra hlong
  obtain ⟨c, more, rfl, hc⟩ := exists_next_of_prefix hbegins (Nat.lt_of_not_le hlong)
  exact hstop c hc (signed_next hother hnumber.ne_nil)

/-! ## Numbers in ASCII -/

/-- A number in ASCII is the longest where neither a digit follows it nor a
point that it could still have. -/
theorem leads_isDecimal_iff :
    Leads (Signed IsDecimal) number (number ++ rest) ↔
      Signed IsDecimal number ∧
        ∀ c ∈ rest.head?, ¬ (c.isDigit = true ∨ c = '.' ∧ '.' ∉ number) := by
  rw [show IsDecimal = IsDecimalOf Char.isDigit from funext fun _ => propext isDecimal_iff]
  refine ⟨fun h => ⟨h.isNumber, fun c hc hnext => ?_⟩, fun h => leads_of_stop h.1 h.2⟩
  obtain ⟨more, rfl⟩ := List.head?_eq_some_iff.1 hc
  have hlength := h.longest _ (signed_concat h.isNumber rfl hnext)
    ((List.prefix_append_right_inj number).2 ⟨more, rfl⟩)
  rw [List.length_append, List.length_singleton] at hlength
  omega

section Ascii

variable (h : Leads (Signed IsDecimal) number (number ++ rest))

include h

theorem Leads.signed_digits : Signed (IsDecimalOf Text.isDecimalDigit) number :=
  h.isNumber.imp fun _ _ hn => (isDecimal_iff.1 hn).mono fun _ => Text.isDecimalDigit_of_isDigit

/-- **The longest number in ASCII is found** where no digit of another script follows it. -/
theorem leadingNumber?_of_leads (hrest : ∀ c ∈ rest.head?, Text.isDecimalDigit c = false) :
    leadingNumber? (number ++ rest) = some number := by
  refine leadingNumber?_eq_some_iff.2 (leads_of_stop h.signed_digits fun c hc => ?_)
  rintro (hdigit | hpoint)
  · exact Bool.false_ne_true ((hrest c hc).symm.trans hdigit)
  · exact (leads_isDecimal_iff.1 h).2 c hc (.inr hpoint)

/-- **Where one does, what is found is no literal.** -/
theorem not_isLiteral_of_leads {c : Char} (hc : c ∈ rest.head?)
    (hdigit : Text.isDecimalDigit c = true) {found : List Char}
    (hfound : leadingNumber? (number ++ rest) = some found) : ¬ IsLiteral found := by
  intro hliteral
  have hleads := leadingNumber?_eq_some_iff.1 hfound
  obtain ⟨more, rfl⟩ := List.head?_eq_some_iff.1 hc
  have hbegins : number ++ [c] <+: number ++ c :: more :=
    (List.prefix_append_right_inj number).2 ⟨more, rfl⟩
  have hmem : c ∈ found := (hleads.other_prefix (signed_concat h.signed_digits rfl (.inl hdigit))
    hbegins).subset (List.mem_append_right _ List.mem_cons_self)
  exact (leads_isDecimal_iff.1 h).2 c hc (.inl (isDigit_of_isAscii (hliteral.ascii c hmem) hdigit))

end Ascii

/-! ## Its value -/

theorem literalChars?_eq_none_iff : literalChars? cs = none ↔ ¬ IsLiteral cs := by
  rw [← isSome_literalChars?_iff, Option.not_isSome_iff_eq_none]

/-- What is found at the beginning of a text has no value exactly if it is no literal. -/
theorem bind_leadingNumber?_eq_none_iff :
    (leadingNumber? cs).bind literalChars? = none ↔
      ∀ found, leadingNumber? cs = some found → ¬ IsLiteral found := by
  rw [Option.bind_eq_none_iff]
  exact forall₂_congr fun found _ => literalChars?_eq_none_iff

/-- **A text that begins with a number** is read as the longest one in ASCII,
and as none where a digit of another script follows that. -/
theorem bind_leadingNumber?_of_leads (h : Leads (Signed IsDecimal) number (number ++ rest)) :
    (leadingNumber? (number ++ rest)).bind literalChars? =
      if rest.head?.any Text.isDecimalDigit then none else literalChars? number := by
  split
  · rename_i hfollows
    obtain ⟨c, hc, hdigit⟩ := (Option.any_eq_true _ _).1 hfollows
    exact bind_leadingNumber?_eq_none_iff.2 fun found => not_isLiteral_of_leads h hc hdigit
  · rename_i hstops
    rw [leadingNumber?_of_leads h fun c hc => ?_, Option.bind_some]
    exact Bool.eq_false_iff.2 fun hdigit => hstops ((Option.any_eq_true _ _).2 ⟨c, hc, hdigit⟩)

/-- **A text that begins with no number** is read as none. -/
theorem bind_leadingNumber?_eq_none (h : ∀ number, Signed IsDecimal number → ¬ number <+: cs) :
    (leadingNumber? cs).bind literalChars? = none := by
  refine bind_leadingNumber?_eq_none_iff.2 fun found hfound hread => ?_
  have hleads := leadingNumber?_eq_some_iff.1 hfound
  exact h found ((isLiteral_iff_of_signed hleads.isNumber).1 hread) hleads.begins

end Quantity

end DeployLint
