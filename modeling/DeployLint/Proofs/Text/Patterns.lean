import Mathlib.Computability.Language
import DeployLint.Proofs.Text.OneLine
import DeployLint.Proofs.Text.Runs

/-!
# Text — patterns

Grammars of names and versions are regular languages: they are put together
from the characters of a class (`oneOf`) by sequence, choice and repetition.
What is said here of a repeated class is what a reader checks of it, character
by character (`mem_kstar_oneOf_iff`), and of words between separators that a
text is of them exactly where each of its fields is one (`mem_separated_iff`).
-/

namespace DeployLint

namespace Text

open Computability

variable {p : Char → Bool} {cs : List Char} {L : Language Char} {sep : Char}

/-! ## Characters of a class -/

/-- The texts of one character of a class. -/
def oneOf (p : Char → Bool) : Language Char := {cs | ∃ c, p c = true ∧ cs = [c]}

theorem cons_mem_oneOf_mul_iff {c : Char} : c :: cs ∈ oneOf p * L ↔ p c = true ∧ cs ∈ L := by
  rw [Language.mem_mul]
  constructor
  · rintro ⟨_, ⟨c', hc', rfl⟩, rest, hrest, h⟩
    obtain ⟨rfl, rfl⟩ := List.cons.inj h
    exact ⟨hc', hrest⟩
  · rintro ⟨hc, hcs⟩
    exact ⟨[c], ⟨c, hc, rfl⟩, cs, hcs, rfl⟩

theorem nil_not_mem_oneOf_mul : [] ∉ oneOf p * L := by
  rw [Language.mem_mul]
  rintro ⟨_, ⟨c, -, rfl⟩, rest, -, h⟩
  exact List.cons_ne_nil _ _ h

/-- **A class any number of times** is a text of characters of the class. -/
theorem mem_kstar_oneOf_iff : cs ∈ (oneOf p)∗ ↔ ∀ c ∈ cs, p c = true := by
  induction cs with
  | nil => exact iff_of_true (Language.nil_mem_kstar _) (List.forall_mem_nil _)
  | cons c cs ih =>
    rw [← Language.one_add_self_mul_kstar_eq_kstar, Language.mem_add, Language.mem_one,
      cons_mem_oneOf_mul_iff, ih, List.forall_mem_cons]
    exact or_iff_right (List.cons_ne_nil c cs)

/-- At least once, and it is not empty. -/
theorem mem_oneOf_mul_kstar_iff :
    cs ∈ oneOf p * (oneOf p)∗ ↔ cs ≠ [] ∧ ∀ c ∈ cs, p c = true := by
  cases cs with
  | nil => exact iff_of_false nil_not_mem_oneOf_mul fun h => h.1 rfl
  | cons c cs =>
    rw [cons_mem_oneOf_mul_iff, mem_kstar_oneOf_iff, List.forall_mem_cons]
    exact (and_iff_right (List.cons_ne_nil c cs)).symm

/-- **At most a number of times**, and it is no longer than that. -/
theorem mem_optional_pow_iff {n : Nat} :
    cs ∈ (1 + oneOf p) ^ n ↔ cs.length ≤ n ∧ ∀ c ∈ cs, p c = true := by
  induction n generalizing cs with
  | zero =>
    rw [pow_zero, Language.mem_one, Nat.le_zero, List.length_eq_zero_iff]
    refine ⟨?_, And.left⟩
    rintro rfl
    exact ⟨rfl, List.forall_mem_nil _⟩
  | succ n ih =>
    rw [pow_succ', add_mul, one_mul, Language.mem_add, ih]
    cases cs with
    | nil =>
      have hshort : ∀ n : Nat, ([] : List Char).length ≤ n ∧ ∀ c ∈ ([] : List Char), p c = true :=
        fun n => ⟨Nat.zero_le n, List.forall_mem_nil _⟩
      exact iff_of_true (Or.inl (hshort n)) (hshort (n + 1))
    | cons c cs =>
      rw [cons_mem_oneOf_mul_iff, ih, List.length_cons, List.forall_mem_cons]
      constructor
      · rintro (⟨hlength, hall⟩ | ⟨hc, hlength, hcs⟩)
        · exact ⟨Nat.le_succ_of_le hlength, hall⟩
        · exact ⟨Nat.succ_le_succ hlength, hc, hcs⟩
      · rintro ⟨hlength, hc, hcs⟩
        exact .inr ⟨hc, Nat.le_of_succ_le_succ hlength, hcs⟩

/-! ## Words between separators -/

theorem not_mem_of_mem_fields {s field : String} (h : field ∈ fields sep s) :
    sep ∉ field.toList := by
  obtain ⟨f, hf, rfl⟩ := List.mem_map.1 h
  rw [String.toList_ofList]
  exact not_mem_of_mem_fieldChars hf

/-- A text has two fields where it has the separator. -/
theorem length_fields_lt_two_iff {s : String} : (fields sep s).length < 2 ↔ sep ∉ s.toList := by
  rw [fields, List.length_map, length_fieldChars, ← List.count_eq_zero]
  omega

/-- Every text is its first field, and each further one behind a separator. -/
theorem exists_fieldChars_eq_cons (sep : Char) (cs : List Char) :
    ∃ first rest, fieldChars sep cs = first :: rest ∧ cs = first ++ rest.flatMap (sep :: ·) := by
  induction cs with
  | nil => exact ⟨[], [], rfl, rfl⟩
  | cons c cs ih =>
    obtain ⟨first, rest, hfields, hcs⟩ := ih
    rw [fieldChars, hfields]
    split
    · rename_i heq
      refine ⟨[], first :: rest, rfl, ?_⟩
      rw [List.flatMap_cons, List.nil_append, List.cons_append, ← hcs, heq]
    · exact ⟨c :: first, rest, rfl, congrArg (c :: ·) hcs⟩

theorem intercalate_singleton_cons (first : List Char) (rest : List (List Char)) :
    [sep].intercalate (first :: rest) = first ++ rest.flatMap (sep :: ·) := by
  induction rest generalizing first with
  | nil => rw [List.intercalate_singleton, List.flatMap_nil, List.append_nil]
  | cons field rest ih =>
    rw [List.intercalate_cons_cons, ih, List.append_assoc, List.flatMap_cons, List.cons_append]
    rfl

/-- Put together again with the separator, the fields are the text. -/
theorem intercalate_fields {t : String} (ht : t.toList = [sep]) (s : String) :
    t.intercalate (fields sep s) = s := by
  obtain ⟨first, rest, hfields, hs⟩ := exists_fieldChars_eq_cons sep s.toList
  have hchars : (fields sep s).map String.toList = first :: rest := by
    rw [fields, List.map_map, ← hfields]
    exact List.map_id'' (fun _ => String.toList_ofList) _
  rw [← String.toList_inj, String.toList_intercalate, ht, hchars, intercalate_singleton_cons, hs]

/-- Texts without the separator are told apart by it. -/
theorem fieldChars_flatMap {first : List Char} {rest : List (List Char)} (hfirst : sep ∉ first)
    (hrest : ∀ field ∈ rest, sep ∉ field) :
    fieldChars sep (first ++ rest.flatMap (sep :: ·)) = first :: rest := by
  induction rest generalizing first with
  | nil => rw [List.flatMap_nil, List.append_nil, fieldChars_eq_singleton hfirst]
  | cons field rest ih =>
    obtain ⟨hfield, hrest⟩ := List.forall_mem_cons.1 hrest
    rw [List.flatMap_cons, List.cons_append, fieldChars_append_cons,
      fieldChars_eq_singleton hfirst, ih hfield hrest, List.singleton_append]

/-- A word behind a separator. -/
theorem mem_singleton_mul_iff : cs ∈ {[sep]} * L ↔ ∃ w ∈ L, cs = sep :: w := by
  rw [Language.mem_mul]
  constructor
  · rintro ⟨_, rfl, w, hw, rfl⟩
    exact ⟨w, hw, rfl⟩
  · rintro ⟨w, hw, rfl⟩
    exact ⟨[sep], rfl, w, hw, rfl⟩

/-- Words each behind a separator. -/
theorem mem_kstar_singleton_mul_iff :
    cs ∈ ({[sep]} * L)∗ ↔
      ∃ words : List (List Char), cs = words.flatMap (sep :: ·) ∧ ∀ w ∈ words, w ∈ L := by
  rw [Language.mem_kstar]
  constructor
  · rintro ⟨blocks, rfl, hblocks⟩
    induction blocks with
    | nil => exact ⟨[], rfl, List.forall_mem_nil _⟩
    | cons block blocks ih =>
      obtain ⟨hblock, hblocks⟩ := List.forall_mem_cons.1 hblocks
      obtain ⟨words, hwords, hL⟩ := ih hblocks
      obtain ⟨w, hw, rfl⟩ := mem_singleton_mul_iff.1 hblock
      refine ⟨w :: words, ?_, List.forall_mem_cons.2 ⟨hw, hL⟩⟩
      rw [List.flatten_cons, hwords]
      rfl
  · rintro ⟨words, rfl, hwords⟩
    refine ⟨words.map (sep :: ·), List.flatMap_def, fun block hblock => ?_⟩
    obtain ⟨w, hw, rfl⟩ := List.mem_map.1 hblock
    exact mem_singleton_mul_iff.2 ⟨w, hwords w hw, rfl⟩

/-- **Words between separators, at least two of them**: where no word of a
language has the separator, a text is made of such words exactly where it has
two fields and each is one. -/
theorem mem_separated_iff (hL : ∀ w ∈ L, sep ∉ w) :
    cs ∈ L * (({[sep]} * L) * ({[sep]} * L)∗) ↔
      sep ∈ cs ∧ ∀ field ∈ fieldChars sep cs, field ∈ L := by
  constructor
  · intro h
    obtain ⟨first, hfirst, _, htail, rfl⟩ := Language.mem_mul.1 h
    obtain ⟨_, hblock, _, hrest, rfl⟩ := Language.mem_mul.1 htail
    obtain ⟨second, hsecond, rfl⟩ := mem_singleton_mul_iff.1 hblock
    obtain ⟨words, rfl, hwords⟩ := mem_kstar_singleton_mul_iff.1 hrest
    have hwords : ∀ w ∈ second :: words, w ∈ L := List.forall_mem_cons.2 ⟨hsecond, hwords⟩
    have hsep : sep ∈ first ++ (second :: words).flatMap (sep :: ·) :=
      List.mem_append_right first List.mem_cons_self
    have hfields : fieldChars sep (first ++ (second :: words).flatMap (sep :: ·)) =
        first :: second :: words :=
      fieldChars_flatMap (hL first hfirst) fun w hw => hL w (hwords w hw)
    refine ⟨hsep, ?_⟩
    change ∀ field ∈ fieldChars sep (first ++ (second :: words).flatMap (sep :: ·)), field ∈ L
    rw [hfields]
    exact List.forall_mem_cons.2 ⟨hfirst, hwords⟩
  · rintro ⟨hsep, hfields⟩
    obtain ⟨first, rest, heq, hcs⟩ := exists_fieldChars_eq_cons sep cs
    rw [heq] at hfields
    obtain ⟨hfirst, hrest⟩ := List.forall_mem_cons.1 hfields
    cases rest with
    -- a single field is the text, which has the separator
    | nil =>
      rw [List.flatMap_nil, List.append_nil] at hcs
      exact absurd hsep (hL cs (hcs ▸ hfirst))
    | cons second rest =>
      obtain ⟨hsecond, hrest⟩ := List.forall_mem_cons.1 hrest
      rw [hcs]
      refine Language.append_mem_mul hfirst (Language.append_mem_mul ?_ ?_)
      · exact mem_singleton_mul_iff.2 ⟨second, hsecond, rfl⟩
      · exact mem_kstar_singleton_mul_iff.2 ⟨rest, rfl, hrest⟩

end Text

end DeployLint
