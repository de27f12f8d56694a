/-!
# Text — search and cutting

Looking for one text inside another, and cutting a text at a character:
into all its fields, at the first occurrence, at the last one.
-/

namespace DeployLint

namespace Text

/-! ## Search -/

/-- Whether a text holds another one. -/
def occurs (needle : List Char) : List Char → Bool
  | [] => needle.isEmpty
  | c :: cs => needle.isPrefixOf (c :: cs) || occurs needle cs

/-- Whether a text holds another one. -/
def holds (s needle : String) : Bool := occurs needle.toList s.toList

/-- Whether a text begins with another one. -/
def beginsWith (s lead : String) : Bool := lead.toList.isPrefixOf s.toList

/-- Whether a text ends with another one. -/
def endsWith (s tail : String) : Bool := tail.toList.isSuffixOf s.toList

/-- What follows a given beginning, if the text has it. -/
def afterChars? : List Char → List Char → Option (List Char)
  | [], cs => some cs
  | _ :: _, [] => none
  | l :: ls, c :: cs => if l = c then afterChars? ls cs else none

/-- What precedes a given ending, if the text has it. -/
def beforeChars? (tail cs : List Char) : Option (List Char) :=
  (afterChars? tail.reverse cs.reverse).map List.reverse

/-- What precedes a given ending of a text, if the text has it. -/
def beforeEnd? (s tail : String) : Option String :=
  (beforeChars? tail.toList s.toList).map String.ofList

/-! ### What precedes an ending -/

theorem afterChars?_eq_some_iff {lead cs rest : List Char} :
    afterChars? lead cs = some rest ↔ cs = lead ++ rest := by
  induction lead generalizing cs with
  | nil => exact ⟨fun h => Option.some.inj h, fun h => congrArg some h⟩
  | cons l ls ih =>
    cases cs with
    | nil => exact ⟨fun h => (nomatch h), fun h => (nomatch h)⟩
    | cons c cs =>
      rw [afterChars?, List.cons_append, List.cons.injEq]
      split
      · rename_i heq
        rw [ih, eq_comm (a := c)]
        exact ⟨fun h => ⟨heq, h⟩, And.right⟩
      · rename_i hne
        exact ⟨fun h => (nomatch h), fun h => absurd h.1.symm hne⟩

theorem beforeChars?_eq_some_iff {tail cs start : List Char} :
    beforeChars? tail cs = some start ↔ cs = start ++ tail := by
  rw [beforeChars?, Option.map_eq_some_iff]
  constructor
  · rintro ⟨rest, h, rfl⟩
    rw [← List.reverse_reverse cs, afterChars?_eq_some_iff.1 h, List.reverse_append,
      List.reverse_reverse]
  · rintro rfl
    exact ⟨start.reverse, afterChars?_eq_some_iff.2 List.reverse_append,
      List.reverse_reverse start⟩

/-- What precedes an ending is what the ending completes to the text. -/
theorem beforeEnd?_eq_some_iff {s tail start : String} :
    beforeEnd? s tail = some start ↔ s = start ++ tail := by
  rw [beforeEnd?, Option.map_eq_some_iff, ← String.toList_inj, String.toList_append]
  constructor
  · rintro ⟨cs, h, rfl⟩
    rw [String.toList_ofList]
    exact beforeChars?_eq_some_iff.1 h
  · intro h
    exact ⟨start.toList, beforeChars?_eq_some_iff.2 h, String.ofList_toList⟩

theorem endsWith_iff {s tail : String} :
    endsWith s tail = true ↔ ∃ start, s = start ++ tail := by
  rw [endsWith, List.isSuffixOf_iff_suffix]
  constructor
  · rintro ⟨cs, h⟩
    refine ⟨String.ofList cs, ?_⟩
    rw [← String.toList_inj, String.toList_append, String.toList_ofList, h]
  · rintro ⟨start, rfl⟩
    exact ⟨start.toList, String.toList_append.symm⟩

/-- A text without an ending has nothing before it. -/
theorem beforeEnd?_eq_none_iff {s tail : String} :
    beforeEnd? s tail = none ↔ endsWith s tail = false := by
  rw [← Bool.not_eq_true, endsWith_iff, Option.eq_none_iff_forall_ne_some]
  simp only [ne_eq, beforeEnd?_eq_some_iff, not_exists]

/-! ## Cutting -/

/-- The fields of a text between the occurrences of a separator; a text
without the separator is its only field. -/
def fieldChars (sep : Char) : List Char → List (List Char)
  | [] => [[]]
  | c :: cs =>
    if c = sep then [] :: fieldChars sep cs
    else
      match fieldChars sep cs with
      | f :: fs => (c :: f) :: fs
      | [] => [[c]]

/-- The fields of a text between the occurrences of a separator. -/
def fields (sep : Char) (s : String) : List String :=
  (fieldChars sep s.toList).map String.ofList

/-- The two sides of the first occurrence of a separator. -/
def cutFirstChars? (sep : Char) : List Char → Option (List Char × List Char)
  | [] => none
  | c :: cs =>
    if c = sep then some ([], cs)
    else (cutFirstChars? sep cs).map fun (l, r) => (c :: l, r)

/-- The two sides of the last occurrence of a separator. -/
def cutLastChars? (sep : Char) (cs : List Char) : Option (List Char × List Char) :=
  (cutFirstChars? sep cs.reverse).map fun (l, r) => (r.reverse, l.reverse)

/-- The two sides of the first occurrence of a separator. -/
def cutFirst? (sep : Char) (s : String) : Option (String × String) :=
  (cutFirstChars? sep s.toList).map fun (l, r) => (String.ofList l, String.ofList r)

/-- The two sides of the last occurrence of a separator. -/
def cutLast? (sep : Char) (s : String) : Option (String × String) :=
  (cutLastChars? sep s.toList).map fun (l, r) => (String.ofList l, String.ofList r)

end Text

end DeployLint
