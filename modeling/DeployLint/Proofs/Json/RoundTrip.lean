import DeployLint.Proofs.Json.Spelling

/-!
# JSON — what is written is read back

Both forms of a value, on one line and over several lines, are spellings of
the value, so the reader gives it back (`read_compact`, `read_pretty`). That
is so for every value without doubles: a double is written by its shortest
digits, which the reader need not turn into the same double.
-/

namespace DeployLint

namespace Json

/-- A value without doubles, whose whole numbers fit sixty-four bits. -/
inductive Exact : Json → Prop
  | null : Exact .null
  | bool (value : Bool) : Exact (.bool value)
  | int {value : Int} : -(2 ^ 63) ≤ value → value < 2 ^ 64 → Exact (.int value)
  | string (value : String) : Exact (.string value)
  | array {items : List Json} : (∀ j ∈ items, Exact j) → Exact (.array items)
  | object {members : List (String × Json)} :
      (∀ m ∈ members, Exact m.2) → Exact (.object members)

theorem blanks_nil : Blanks [] := fun _ hc => nomatch hc

/-- A new line with its indentation is blank. -/
theorem blanks_newLine (level : Nat) : Blanks (newLine level) := by
  refine List.forall_mem_cons.2 ⟨rfl, fun c hc => ?_⟩
  rw [List.eq_of_mem_replicate hc]
  rfl

theorem separator_comma {blanks : List Char} (h : Blanks blanks) :
    Separator false (',' :: blanks) := .next blanks_nil h

section Members

variable {first : Bool} {name : String} {j : Json} {ms : List (String × Json)}
variable {separator cs tail : List Char}

/-- A member without a blank behind its colon. -/
theorem SpellsMembers.tight (hseparator : Separator first separator) (hj : Spells j cs)
    (hms : SpellsMembers false ms tail) : SpellsMembers first ((name, j) :: ms)
      (separator ++ (quoteChars name ++ ':' :: (cs ++ tail))) :=
  @SpellsMembers.member _ _ _ _ _ [] [] _ _ hseparator blanks_nil blanks_nil hj hms

/-- A member with one blank behind its colon. -/
theorem SpellsMembers.spaced (hseparator : Separator first separator) (hj : Spells j cs)
    (hms : SpellsMembers false ms tail) : SpellsMembers first ((name, j) :: ms)
      (separator ++ (quoteChars name ++ ':' :: ' ' :: (cs ++ tail))) :=
  @SpellsMembers.member _ _ _ _ _ [] [' '] _ _ hseparator blanks_nil
    (List.forall_mem_singleton.2 rfl) hj hms

end Members

/-! ## One line -/

mutual

/-- A value on one line is a spelling of it. -/
theorem spells_compactChars : ∀ (j : Json), j.Exact → Spells j j.compactChars
  | .null, .null => .nullWord
  | .bool true, .bool true => .trueWord
  | .bool false, .bool false => .falseWord
  | .int _, .int hlow hhigh => .int hlow hhigh
  | .string s, .string _ => .string s
  | .array [], .array _ => .array (.stop blanks_nil)
  | .array (item :: items), .array h => by
    obtain ⟨hitem, hitems⟩ := List.forall_mem_cons.1 h
    rw [compactChars, List.append_assoc, List.cons_append]
    exact .array (@SpellsItems.item _ _ _ [] _ _ (.first blanks_nil)
      (spells_compactChars item hitem) (spells_compactItems items hitems))
  | .object [], .object _ => .object (.stop blanks_nil)
  | .object ((name, value) :: members), .object h => by
    obtain ⟨hvalue, hmembers⟩ := List.forall_mem_cons.1 h
    simp only [compactChars, List.append_assoc, List.cons_append]
    exact .object (@SpellsMembers.tight _ _ _ _ [] _ _ (.first blanks_nil)
      (spells_compactChars value hvalue) (spells_compactMembers members hmembers))

theorem spells_compactItems : ∀ (js : List Json), (∀ j ∈ js, j.Exact) →
    SpellsItems false js (compactItems js ++ [']'])
  | [], _ => .stop blanks_nil
  | item :: items, h => by
    obtain ⟨hitem, hitems⟩ := List.forall_mem_cons.1 h
    rw [compactItems, List.append_assoc, List.cons_append]
    exact .item (separator_comma blanks_nil) (spells_compactChars item hitem)
      (spells_compactItems items hitems)

theorem spells_compactMembers : ∀ (ms : List (String × Json)), (∀ m ∈ ms, m.2.Exact) →
    SpellsMembers false ms (compactMembers ms ++ ['\x7d'])
  | [], _ => .stop blanks_nil
  | (name, value) :: members, h => by
    obtain ⟨hvalue, hmembers⟩ := List.forall_mem_cons.1 h
    simp only [compactMembers, List.append_assoc, List.cons_append]
    exact .tight (separator_comma blanks_nil)
      (spells_compactChars value hvalue) (spells_compactMembers members hmembers)

end

/-! ## Several lines -/

mutual

/-- A value over several lines is a spelling of it. -/
theorem spells_prettyChars : ∀ (level : Nat) (j : Json), j.Exact → Spells j (j.prettyChars level)
  | _, .null, .null => .nullWord
  | _, .bool true, .bool true => .trueWord
  | _, .bool false, .bool false => .falseWord
  | _, .int _, .int hlow hhigh => .int hlow hhigh
  | _, .string s, .string _ => .string s
  | _, .array [], .array _ => .array (.stop blanks_nil)
  | level, .array (item :: items), .array h => by
    obtain ⟨hitem, hitems⟩ := List.forall_mem_cons.1 h
    simp only [prettyChars, List.append_assoc, List.cons_append]
    exact .array (.item (.first (blanks_newLine _)) (spells_prettyChars _ item hitem)
      (spells_prettyItems _ _ items hitems))
  | _, .object [], .object _ => .object (.stop blanks_nil)
  | level, .object ((name, value) :: members), .object h => by
    obtain ⟨hvalue, hmembers⟩ := List.forall_mem_cons.1 h
    simp only [prettyChars, List.append_assoc, List.cons_append]
    exact .object (.spaced (.first (blanks_newLine _))
      (spells_prettyChars _ value hvalue) (spells_prettyMembers _ _ members hmembers))

theorem spells_prettyItems : ∀ (level stop : Nat) (js : List Json), (∀ j ∈ js, j.Exact) →
    SpellsItems false js (prettyItems level js ++ (newLine stop ++ [']']))
  | _, stop, [], _ => .stop (blanks_newLine stop)
  | level, stop, item :: items, h => by
    obtain ⟨hitem, hitems⟩ := List.forall_mem_cons.1 h
    simp only [prettyItems, List.append_assoc, List.cons_append]
    exact .item (separator_comma (blanks_newLine level)) (spells_prettyChars level item hitem)
      (spells_prettyItems level stop items hitems)

theorem spells_prettyMembers : ∀ (level stop : Nat) (ms : List (String × Json)),
    (∀ m ∈ ms, m.2.Exact) →
    SpellsMembers false ms (prettyMembers level ms ++ (newLine stop ++ ['\x7d']))
  | _, stop, [], _ => .stop (blanks_newLine stop)
  | level, stop, (name, value) :: members, h => by
    obtain ⟨hvalue, hmembers⟩ := List.forall_mem_cons.1 h
    simp only [prettyMembers, List.append_assoc, List.cons_append]
    exact .spaced (separator_comma (blanks_newLine level))
      (spells_prettyChars level value hvalue) (spells_prettyMembers level stop members hmembers)

end

/-! ## Reading back -/

theorem read_ofList {j : Json} {cs : List Char} (h : Spells j cs)
    (hdepth : j.nesting < depthLimit) : read (String.ofList cs) = .ok j := by
  rw [read, String.toList_ofList, readChars_of_spells h hdepth]

/-- **A value on one line is read back.** -/
theorem read_compact {j : Json} (h : j.Exact) (hdepth : j.nesting < depthLimit) :
    read j.compact = .ok j :=
  read_ofList (spells_compactChars j h) hdepth

/-- **A value over several lines is read back.** -/
theorem read_pretty {j : Json} (h : j.Exact) (hdepth : j.nesting < depthLimit) :
    read j.pretty = .ok j :=
  read_ofList (spells_prettyChars 0 j h) hdepth

end Json

end DeployLint
