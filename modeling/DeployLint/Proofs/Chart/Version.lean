import DeployLint.Chart.Version
import DeployLint.Proofs.Finding.Demands
import DeployLint.Proofs.Text.Patterns

/-!
# Charts — the grammar of versions

A version is made of parts between dots, at least two of them, and a part of
digits and what may follow them behind a hyphen. Both are regular
(`partGrammar`, `versionGrammar`). The check cuts a version at its dots and
looks at each part by its first hyphen, and so accepts the grammar and nothing
else (`checkVersion_eq_nil_iff`): a part is found by its digits
(`mem_partGrammar_iff`), and no part has a dot.
-/

namespace DeployLint

namespace Chart

open Computability
open Text (oneOf fieldChars)

variable {cs : List Char} {version : String} {subject : Subject}

/-! ## Parts -/

/-- Digits, and perhaps a hyphen with anything but dots behind it. -/
def partGrammar : Language Char :=
  (oneOf Char.isDigit * (oneOf Char.isDigit)∗) * (1 + {['-']} * (oneOf fun c => c ≠ '.')∗)

/-- Parts between dots, at least two. -/
def versionGrammar : Language Char :=
  partGrammar * (({['.']} * partGrammar) * ({['.']} * partGrammar)∗)

theorem mem_partGrammar_iff_exists :
    cs ∈ partGrammar ↔ ∃ digits rest, cs = digits ++ rest ∧
      (digits ≠ [] ∧ ∀ c ∈ digits, c.isDigit = true) ∧
      (rest = [] ∨ ∃ suffix, rest = '-' :: suffix ∧ '.' ∉ suffix) := by
  have hsuffix : ∀ suffix, suffix ∈ (oneOf fun c => c ≠ '.')∗ ↔ '.' ∉ suffix := by
    intro suffix
    rw [Text.mem_kstar_oneOf_iff]
    simp only [decide_eq_true_eq]
    exact ⟨fun h hdot => h _ hdot rfl, fun h c hc heq => h (heq ▸ hc)⟩
  rw [partGrammar, Language.mem_mul]
  constructor
  · rintro ⟨digits, hdigits, rest, hrest, rfl⟩
    refine ⟨digits, rest, rfl, Text.mem_oneOf_mul_kstar_iff.1 hdigits, ?_⟩
    rcases (Language.mem_add _ _ _).1 hrest with hrest | hrest
    · exact .inl hrest
    · obtain ⟨suffix, hmem, rfl⟩ := Text.mem_singleton_mul_iff.1 hrest
      exact .inr ⟨suffix, rfl, (hsuffix suffix).1 hmem⟩
  · rintro ⟨digits, rest, rfl, hdigits, hrest⟩
    refine ⟨digits, Text.mem_oneOf_mul_kstar_iff.2 hdigits, rest, ?_, rfl⟩
    rcases hrest with rfl | ⟨suffix, rfl, hdot⟩
    · exact .inl rfl
    · exact .inr (Text.mem_singleton_mul_iff.2 ⟨suffix, (hsuffix suffix).2 hdot, rfl⟩)

theorem isNumeric_iff : isNumeric cs = true ↔ cs ≠ [] ∧ ∀ c ∈ cs, c.isDigit = true := by
  rw [isNumeric, Bool.and_eq_true, Bool.not_eq_true', List.isEmpty_eq_false_iff, List.all_eq_true]

/-- **A part is known by what precedes its first hyphen**, as long as it has no dot. -/
theorem mem_partGrammar_iff :
    cs ∈ partGrammar ↔ isNumeric (cs.takeWhile (· != '-')) = true ∧ '.' ∉ cs := by
  rw [mem_partGrammar_iff_exists, isNumeric_iff]
  constructor
  · rintro ⟨digits, rest, rfl, ⟨hne, hdigits⟩, hrest⟩
    have hrun : ∀ c ∈ digits, (c != '-') = true := by
      intro c hc
      rw [bne_iff_ne]
      rintro rfl
      exact absurd (hdigits _ hc) (by decide)
    have hstop : ∀ c ∈ rest.head?, (c != '-') = false := by
      rintro c hc
      rcases hrest with rfl | ⟨suffix, rfl, -⟩
      · exact nomatch hc
      · obtain rfl := Option.some.inj hc
        decide
    have hdot : '.' ∉ digits := fun hmem => absurd (hdigits _ hmem) (by decide)
    rw [Text.takeWhile_append_of_stop hrun hstop, List.mem_append, not_or]
    refine ⟨⟨hne, hdigits⟩, hdot, ?_⟩
    rcases hrest with rfl | ⟨suffix, rfl, hsuffix⟩
    · exact List.not_mem_nil
    · exact List.not_mem_cons_of_ne_of_not_mem (by decide) hsuffix
  · rintro ⟨hnumeric, hdot⟩
    obtain ⟨run, rest, rfl, hrun, hstop⟩ := Text.exists_run (· != '-') cs
    rw [Text.takeWhile_append_of_stop hrun hstop] at hnumeric
    refine ⟨run, rest, rfl, hnumeric, ?_⟩
    cases rest with
    | nil => exact .inl rfl
    | cons c suffix =>
      have hhyphen : c = '-' := by simpa using hstop c rfl
      have hsuffix : '.' ∉ suffix := fun hmem =>
        hdot (List.mem_append_right run (List.mem_cons_of_mem c hmem))
      exact .inr ⟨suffix, by rw [hhyphen], hsuffix⟩

instance : DecidablePred (· ∈ partGrammar) := fun _ => decidable_of_iff' _ mem_partGrammar_iff

/-- The check of a text without dots. -/
theorem isVersionPart_iff {part : String} (h : '.' ∉ part.toList) :
    isVersionPart part = true ↔ part.toList ∈ partGrammar := by
  rw [isVersionPart, mem_partGrammar_iff, and_iff_left h]

/-! ## Versions -/

/-- What is asked of a version: that it is not empty, and of one that is not,
that it has a dot and that all its fields between dots are parts. -/
def versionDemands (version : String) (subject : Subject) : List Demand :=
  let demand (code message : String) (Kept : Prop) [Decidable Kept] : Demand :=
    .error subject code (.ofKeys ["version"]) message Kept
  demand "HC1001" "Version is empty" (version ≠ "") ::
    if version = "" then []
    else
      demand "HC1002" s!"Version should have at least major.minor: {version}"
          ('.' ∈ version.toList) ::
        (Text.fields '.' version).map fun part =>
          demand "HC1003" s!"Invalid version part: {part}" (part.toList ∈ partGrammar)

/-- **The check asks for this and reports all that is broken.** -/
theorem checkVersion_eq_broken (version : String) (subject : Subject) :
    checkVersion version subject = Demand.broken (versionDemands version subject) := by
  rw [versionDemands, Demand.broken_error_cons]
  by_cases hempty : version = ""
  · subst hempty
    rfl
  · have hne : version.isEmpty = false := by simpa using hempty
    have hparts : ∀ part ∈ Text.fields '.' version,
        (!isVersionPart part) = decide (part.toList ∉ partGrammar) := by
      intro part hpart
      rw [Bool.eq_iff_iff, Bool.not_eq_true', ← Bool.not_eq_true,
        isVersionPart_iff (Text.not_mem_of_mem_fields hpart), decide_eq_true_iff]
    rw [if_pos hempty, if_neg hempty, List.nil_append, Demand.broken_error_cons,
      Demand.broken_map_error, ← List.filter_congr hparts]
    simp only [checkVersion, hne, Text.length_fields_lt_two_iff, ite_not]
    rfl

theorem versionGrammar_iff : version.toList ∈ versionGrammar ↔
    '.' ∈ version.toList ∧ ∀ part ∈ Text.fields '.' version, part.toList ∈ partGrammar := by
  rw [versionGrammar, Text.mem_separated_iff fun w hw => (mem_partGrammar_iff.1 hw).2, Text.fields,
    List.forall_mem_map]
  simp only [String.toList_ofList]

/-- **The check accepts the grammar and nothing else.** -/
theorem checkVersion_eq_nil_iff :
    checkVersion version subject = [] ↔ version.toList ∈ versionGrammar := by
  rw [checkVersion_eq_broken, Demand.broken_eq_nil_iff, versionDemands, List.forall_mem_cons,
    versionGrammar_iff]
  by_cases hempty : version = ""
  · subst hempty
    exact iff_of_false (fun h => h.1 rfl) fun h => List.not_mem_nil h.1
  · rw [if_neg hempty, List.forall_mem_cons, List.forall_mem_map]
    exact and_iff_right hempty

/-- An error on the version of a chart. -/
def versionError (subject : Subject) (code message : String) : Finding where
  code := code
  severity := .error
  subject := subject
  path := some "version"
  message := message

/-- **The check of versions decides their grammar.** Of a version that is not
of the grammar it reports that it is empty, or else that it has no dot, and
each of its segments between dots that is no part, in their order. -/
theorem checkVersion_decides_grammar (version : String) (subject : Subject) :
    (checkVersion version subject = [] ↔ version.toList ∈ versionGrammar) ∧
    (version = "" → checkVersion version subject =
      [versionError subject "HC1001" "Version is empty"]) ∧
    (version ≠ "" → ∃ segments : List String, segments ≠ [] ∧
      ".".intercalate segments = version ∧ (∀ s ∈ segments, '.' ∉ s.toList) ∧
      checkVersion version subject =
        (if '.' ∈ version.toList then []
          else [versionError subject "HC1002"
            s!"Version should have at least major.minor: {version}"]) ++
        (segments.filter fun s => s.toList ∉ partGrammar).map fun s =>
          versionError subject "HC1003" s!"Invalid version part: {s}") := by
  refine ⟨checkVersion_eq_nil_iff, ?empty, ?segments⟩
  case empty =>
    rintro rfl
    rfl
  case segments =>
    intro hne
    refine ⟨Text.fields '.' version, ?_, Text.intercalate_fields rfl version,
      fun s hs => Text.not_mem_of_mem_fields hs, ?_⟩
    · exact fun hnil => Text.fieldChars_ne_nil '.' version.toList (List.map_eq_nil_iff.1 hnil)
    · rw [checkVersion_eq_broken, versionDemands, Demand.broken_error_cons, if_pos hne, if_neg hne,
        Demand.broken_error_cons, Demand.broken_map_error]
      rfl

/-- A part that has more than one hyphen; parts without digits, and digits
that are not ASCII. -/
theorem checkVersion_decides_grammar_hyphens :
    let subject : Subject := { artifact := "web/Chart.yaml" }
    (checkVersion "1.0-rc-1" subject = [] ∧ "1.0-rc-1".toList ∈ versionGrammar) ∧
    "1..-2.٣" ≠ "" ∧ "1..-2.٣".toList ∉ versionGrammar ∧
    checkVersion "" subject = [versionError subject "HC1001" "Version is empty"] ∧
    ∃ segments : List String, segments ≠ [] ∧ ".".intercalate segments = "1..-2.٣" ∧
      (∀ s ∈ segments, '.' ∉ s.toList) ∧
      (segments.filter fun s => s.toList ∉ partGrammar).map (fun s =>
          versionError subject "HC1003" s!"Invalid version part: {s}") =
        [versionError subject "HC1003" "Invalid version part: ",
          versionError subject "HC1003" "Invalid version part: -2",
          versionError subject "HC1003" "Invalid version part: ٣"] := by
  intro subject
  obtain ⟨haccepts, -, -⟩ := checkVersion_decides_grammar "1.0-rc-1" subject
  obtain ⟨-, hempty, -⟩ := checkVersion_decides_grammar "" subject
  obtain ⟨hrejects, -, hsegments⟩ := checkVersion_decides_grammar "1..-2.٣" subject
  have hclean : checkVersion "1.0-rc-1" subject = [] := by decide
  have hfound : checkVersion "1..-2.٣" subject =
      [versionError subject "HC1003" "Invalid version part: ",
        versionError subject "HC1003" "Invalid version part: -2",
        versionError subject "HC1003" "Invalid version part: ٣"] := by decide
  have hne : "1..-2.٣" ≠ "" := by decide
  refine ⟨⟨hclean, haccepts.1 hclean⟩, hne, fun hmem => ?_, hempty rfl, ?_⟩
  · exact nomatch hfound.symm.trans (hrejects.2 hmem)
  · obtain ⟨segments, hsome, hjoined, hdots, hequation⟩ := hsegments hne
    refine ⟨segments, hsome, hjoined, hdots, ?_⟩
    rw [if_pos (by decide), List.nil_append] at hequation
    exact hequation.symm.trans hfound

end Chart

end DeployLint
