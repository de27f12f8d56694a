import DeployLint.Proofs.Finding.Demands
import DeployLint.Proofs.Resource.Metadata
import DeployLint.Proofs.Text.Patterns

/-!
# Resources — the grammar of names

Of a name four things are asked, one after the other: that it is not empty,
that it is no longer than the limit, that it is of certain characters with a
letter or a digit among them, and that no hyphen stands at its edges. The
check of names reports the first of them that the name breaks
(`checkName_eq_head?_broken`), so it accepts the names that keep all four
(`IsName`). Names of lower-case letters and digits, with points and hyphens
inside, are among them (`isName_of_mem_hostGrammar`).
-/

namespace DeployLint

namespace Resource

open Text (oneOf)

variable {r : Resource} {limits : NamingLimits} {name : String}

/-! ## What is asked of a name -/

/-- A character of a name: an ASCII letter or digit, a hyphen or a point. -/
def NameChar (c : Char) : Prop := c.isAlphanum = true ∨ c = '-' ∨ c = '.'

theorem isNameChar_iff {c : Char} : isNameChar c = true ↔ NameChar c := by
  rw [isNameChar, Bool.or_eq_true, Bool.or_eq_true, beq_iff_eq, beq_iff_eq, or_assoc]
  rfl

/-- Characters of names only, with a letter or a digit among them. -/
def NameChars (cs : List Char) : Prop :=
  (∀ c ∈ cs, NameChar c) ∧ ∃ c ∈ cs, c.isAlphanum = true

theorem nameChars_iff {cs : List Char} :
    (cs.all isNameChar && cs.any Char.isAlphanum) = true ↔ NameChars cs := by
  rw [Bool.and_eq_true, List.all_eq_true, List.any_eq_true]
  simp only [isNameChar_iff]
  rfl

instance : DecidablePred NameChars := fun _ => decidable_of_iff _ nameChars_iff

/-- A name that keeps all rules on names. -/
structure IsName (limits : NamingLimits) (name : String) : Prop where
  ne_empty : name ≠ ""
  length_le : name.length ≤ limits.name
  chars : ∀ c ∈ name.toList, NameChar c
  alphanumeric : ∃ c ∈ name.toList, c.isAlphanum = true
  head_ne : name.toList.head? ≠ some '-'
  last_ne : name.toList.getLast? ≠ some '-'

/-- What is asked of the name of a resource, in the order in which it is asked. -/
def nameDemands (r : Resource) (limits : NamingLimits) (name : String) : List Demand :=
  let demand (code message : String) (Kept : Prop) [Decidable Kept] : Demand :=
    .error r.subject code (.ofKeys ["metadata", "name"]) message Kept
  [demand "KM1001" "Resource name is empty" (name ≠ ""),
    demand "KM1002" s!"Resource name too long: {name.length} > {limits.name}"
      (name.length ≤ limits.name),
    demand "KM1003" s!"Resource name contains invalid characters: {name}" (NameChars name.toList),
    demand "KM1004" s!"Resource name cannot start or end with hyphen: {name}"
      (name.toList.head? ≠ some '-' ∧ name.toList.getLast? ≠ some '-')]

theorem kept_nameDemands_iff :
    (∀ d ∈ r.nameDemands limits name, d.Kept) ↔ IsName limits name := by
  simp only [nameDemands, List.forall_mem_cons]
  constructor
  · rintro ⟨hempty, hlength, ⟨hchars, halphanumeric⟩, ⟨hhead, hlast⟩, -⟩
    exact ⟨hempty, hlength, hchars, halphanumeric, hhead, hlast⟩
  · rintro ⟨hempty, hlength, hchars, halphanumeric, hhead, hlast⟩
    exact ⟨hempty, hlength, ⟨hchars, halphanumeric⟩, ⟨hhead, hlast⟩, List.forall_mem_nil _⟩

/-! ## The first that is broken -/

theorem not_head_ne_iff {cs : List Char} :
    (cs.head? == some '-' || cs.getLast? == some '-') = true ↔
      ¬ (cs.head? ≠ some '-' ∧ cs.getLast? ≠ some '-') := by
  rw [Bool.or_eq_true, beq_iff_eq, beq_iff_eq, not_and_or, not_not, not_not]

theorem not_nameChars_iff {cs : List Char} :
    (!cs.all isNameChar || !cs.any Char.isAlphanum) = true ↔ ¬ NameChars cs := by
  rw [← Bool.not_and, Bool.not_eq_true', ← Bool.not_eq_true, nameChars_iff]

/-- The fault of a name is the first demand that it breaks. -/
theorem head?_broken_nameDemands (r : Resource) (limits : NamingLimits) (name : String) :
    (Demand.broken (r.nameDemands limits name)).head? =
      (nameFault? limits name).map fun x =>
        r.finding x.1 .error (.ofKeys ["metadata", "name"]) x.2 := by
  have hempty : name.toList.isEmpty = true ↔ ¬ name ≠ "" := by
    rw [List.isEmpty_iff, not_not, String.toList_eq_nil_iff]
  have hlong : limits.name < name.length ↔ ¬ name.length ≤ limits.name := Nat.not_le.symm
  rw [nameDemands, nameFault?]
  simp only [Demand.head?_broken_error_cons, String.length_toList, hempty, hlong, not_nameChars_iff,
    not_head_ne_iff, ite_not, apply_ite (Option.map _), Option.map_some, Option.map_none]
  rfl

/-- **The check of names reports the first demand that the name breaks**, and no other. -/
theorem checkName_eq_head?_broken {metadata : Document} (hmetadata : r.metadata? = some metadata) :
    r.checkName limits =
      (Demand.broken (r.nameDemands limits (r.name?.getD ""))).head?.toList := by
  rw [head?_broken_nameDemands, checkName, hmetadata]
  cases nameFault? limits (r.name?.getD "") <;> rfl

/-! ## Names of hosts -/

/-- A lower-case letter or a digit. -/
def isHostChar (c : Char) : Bool := c.isLower || c.isDigit

/-- Up to 253 lower-case letters, digits, points and hyphens, the first and the
last a letter or a digit. -/
def hostGrammar : Language Char :=
  oneOf isHostChar *
    (1 + (1 + oneOf fun c => isHostChar c || c == '.' || c == '-') ^ 251 * oneOf isHostChar)

theorem isAlphanum_of_isHostChar {c : Char} (h : isHostChar c = true) : c.isAlphanum = true := by
  change ((c.isUpper || c.isLower) || c.isDigit) = true
  rw [Bool.or_eq_true, Bool.or_eq_true]
  exact (Bool.or_eq_true_iff.1 h).imp_left Or.inr

theorem ne_hyphen_of_isHostChar {c : Char} (h : isHostChar c = true) : c ≠ '-' := by
  rintro rfl
  exact absurd h (by decide)

/-- The length of a name of the grammar, its characters and its edges. -/
theorem shape_of_mem_hostGrammar {cs : List Char} (h : cs ∈ hostGrammar) :
    cs.length ≤ 253 ∧ (∀ c ∈ cs, NameChar c) ∧ (∃ c, cs.head? = some c ∧ isHostChar c = true) ∧
      ∃ c, cs.getLast? = some c ∧ isHostChar c = true := by
  have hedge : ∀ {c}, isHostChar c = true → NameChar c := fun h => .inl (isAlphanum_of_isHostChar h)
  rw [hostGrammar] at h
  cases cs with
  | nil => exact absurd h Text.nil_not_mem_oneOf_mul
  | cons first cs =>
    obtain ⟨hfirst, hrest⟩ := Text.cons_mem_oneOf_mul_iff.1 h
    rcases (Language.mem_add _ _ _).1 hrest with rfl | hrest
    · exact ⟨Nat.le_add_left 1 252, List.forall_mem_singleton.2 (hedge hfirst), ⟨first, rfl, hfirst⟩,
        ⟨first, rfl, hfirst⟩⟩
    · obtain ⟨inner, hinner, _, ⟨last, hlast, rfl⟩, rfl⟩ := Language.mem_mul.1 hrest
      obtain ⟨hshort, hchars⟩ := Text.mem_optional_pow_iff.1 hinner
      have hinside : ∀ c ∈ inner, NameChar c := by
        intro c hc
        have hclass := hchars c hc
        rw [Bool.or_eq_true, Bool.or_eq_true, beq_iff_eq, beq_iff_eq, or_assoc] at hclass
        exact hclass.imp isAlphanum_of_isHostChar Or.symm
      refine ⟨?length, ?chars, ⟨first, rfl, hfirst⟩, ⟨last, ?last, hlast⟩⟩
      case length =>
        rw [List.length_cons, List.length_append, List.length_singleton]
        omega
      case chars =>
        rw [List.forall_mem_cons, List.forall_mem_append, List.forall_mem_singleton]
        exact ⟨hedge hfirst, hinside, hedge hlast⟩
      case last => rw [← List.cons_append, List.getLast?_concat]

/-- **Names of hosts keep all rules on names**, where names may have 253 characters. -/
theorem isName_of_mem_hostGrammar (h : name.toList ∈ hostGrammar) (hlimit : 253 ≤ limits.name) :
    IsName limits name := by
  obtain ⟨hlength, hchars, ⟨first, hhead, hfirst⟩, ⟨last, hend, hlast⟩⟩ := shape_of_mem_hostGrammar h
  have hmem : first ∈ name.toList := List.mem_of_head? hhead
  refine ⟨?_, ?_, hchars, ⟨first, hmem, isAlphanum_of_isHostChar hfirst⟩, ?_, ?_⟩
  · rintro rfl
    exact nomatch hhead
  · rw [← String.length_toList]
    exact hlength.trans hlimit
  · rw [hhead, ne_eq, Option.some.injEq]
    exact ne_hyphen_of_isHostChar hfirst
  · rw [hend, ne_eq, Option.some.injEq]
    exact ne_hyphen_of_isHostChar hlast

/-! ## The result -/

/-- **The check of names accepts the names that keep all rules, and reports the
first rule that is broken.** The name of a resource with metadata is the text
of the scalar under its key, and empty if there is none. What is reported of a
name that is not accepted is one error at that key, of the first thing asked
for that the name does not keep. Every name of a host is accepted, under the
limits that hold by default. -/
theorem checkName_finds_first_broken (r : Resource) (limits : NamingLimits) {metadata : Document}
    (hmetadata : r.document.get? "metadata" = some metadata) :
    let name := ((metadata.get? "name").bind Document.scalarText?).getD ""
    (r.checkName limits = [] ↔ IsName limits name) ∧
    (¬ IsName limits name → ∃ before d after, r.nameDemands limits name = before ++ d :: after ∧
      (∀ e ∈ before, e.Kept) ∧ ¬ d.Kept ∧ r.checkName limits = [d.finding]) ∧
    (name.toList ∈ hostGrammar → r.checkName {} = []) := by
  intro name
  have hname : r.name?.getD "" = name := congrArg (Option.getD · "") (name?_eq_bind hmetadata)
  have hcheck : ∀ limits, r.checkName limits =
      (Demand.broken (r.nameDemands limits name)).head?.toList :=
    fun limits => hname ▸ checkName_eq_head?_broken hmetadata
  have haccepts : ∀ limits, r.checkName limits = [] ↔ IsName limits name := by
    intro limits
    rw [hcheck, Option.toList_eq_nil_iff, List.head?_eq_none_iff, Demand.broken_eq_nil_iff,
      kept_nameDemands_iff]
  refine ⟨haccepts limits, fun hnot => ?first, fun hhost => ?host⟩
  case first =>
    have hsome : (Demand.broken (r.nameDemands limits name)).head? ≠ none := by
      intro hnone
      refine hnot ((haccepts limits).1 ?_)
      rw [hcheck, hnone]
      rfl
    obtain ⟨f, hf⟩ := Option.ne_none_iff_exists'.1 hsome
    obtain ⟨before, d, after, hdemands, hbefore, hd, hfinding⟩ := Demand.head?_broken_eq_some_iff.1 hf
    refine ⟨before, d, after, hdemands, hbefore, hd, ?_⟩
    rw [hcheck, hf, hfinding]
    rfl
  case host => exact (haccepts {}).2 (isName_of_mem_hostGrammar hhost (Nat.le_refl 253))

/-- A resource of a name. -/
def namedBy (name : String) : Resource where
  subject := { artifact := "in" }
  document := .mapping [("metadata", .mapping [("name", .string name)])]

/-- A name with a point and a hyphen inside; and one that ends in a hyphen,
which is not asked of a name that is too long already. -/
theorem checkName_finds_first_broken_edges :
    ((namedBy "a.b-0").checkName {} = [] ∧ IsName {} "a.b-0") ∧
    ¬ IsName { name := 4 } "web1-" ∧ ∃ before d after,
      (namedBy "web1-").nameDemands { name := 4 } "web1-" = before ++ d :: after ∧
      (∀ e ∈ before, e.Kept) ∧ ¬ d.Kept ∧ d.finding.code = "KM1002" ∧
      (namedBy "web1-").checkName { name := 4 } = [d.finding] := by
  obtain ⟨haccepts, -, hhost⟩ := checkName_finds_first_broken (namedBy "a.b-0") {} rfl
  obtain ⟨hrejects, hfirst, -⟩ := checkName_finds_first_broken (namedBy "web1-") { name := 4 } rfl
  have hmem : "a.b-0".toList ∈ hostGrammar := by
    refine Text.cons_mem_oneOf_mul_iff.2 ⟨by decide, .inr ?_⟩
    have hinner := Text.mem_optional_pow_iff.2
      (⟨by decide, List.all_eq_true.1 (by decide)⟩ : ['.', 'b', '-'].length ≤ 251 ∧
        ∀ c ∈ ['.', 'b', '-'], (isHostChar c || c == '.' || c == '-') = true)
    exact Language.append_mem_mul hinner ⟨'0', by decide, rfl⟩
  have hclean := hhost hmem
  have hlong : ((namedBy "web1-").checkName { name := 4 }).map (fun f => f.code) = ["KM1002"] := by
    decide
  have hnot : ¬ IsName { name := 4 } "web1-" := by
    intro hname
    rw [hrejects.2 hname] at hlong
    exact nomatch hlong
  refine ⟨⟨hclean, haccepts.1 hclean⟩, hnot, ?_⟩
  obtain ⟨before, d, after, hdemands, hbefore, hd, hfound⟩ := hfirst hnot
  refine ⟨before, d, after, hdemands, hbefore, hd, ?_, hfound⟩
  rw [hfound] at hlong
  exact (List.cons.inj hlong).1

end Resource

end DeployLint
