import DeployLint.Proofs.Json.Leaves

/-!
# JSON — the spellings of a value

A value has many texts: blanks may stand around every token. `Spells` is the
grammar of those texts that write each string and each whole number as the
writer does, and it leaves the blanks free, so the text on one line and the
text over several lines are both spellings. The reader reads every spelling
of a value as that value, as long as containers do not nest too deep
(`readChars_of_spells`).
-/

namespace DeployLint

namespace Json

/-! ## Nesting -/

mutual

/-- How deep the containers of a value nest. -/
def nesting : Json → Nat
  | .array items => nestingItems items + 1
  | .object members => nestingMembers members + 1
  | _ => 0

def nestingItems : List Json → Nat
  | [] => 0
  | j :: js => max j.nesting (nestingItems js)

def nestingMembers : List (String × Json) → Nat
  | [] => 0
  | (_, j) :: js => max j.nesting (nestingMembers js)

end

theorem nestingItems_le {js : List Json} {n : Nat} (h : ∀ j ∈ js, j.nesting ≤ n) :
    nestingItems js ≤ n := by
  induction js with
  | nil => exact Nat.zero_le n
  | cons j js ih =>
    obtain ⟨hj, hjs⟩ := List.forall_mem_cons.1 h
    exact Nat.max_le.2 ⟨hj, ih hjs⟩

/-! ## The grammar -/

/-- Nothing but blanks. -/
def Blanks (cs : List Char) : Prop := ∀ c ∈ cs, isSpace c = true

/-- What stands in front of a part of a container: blanks, among them a comma
unless the part is the first. -/
inductive Separator : Bool → List Char → Prop
  | first {blanks : List Char} : Blanks blanks → Separator true blanks
  | next {before after : List Char} :
      Blanks before → Blanks after → Separator false (before ++ ',' :: after)

mutual

/-- A text writes a value. -/
inductive Spells : Json → List Char → Prop
  | nullWord : Spells .null ['n', 'u', 'l', 'l']
  | trueWord : Spells (.bool true) ['t', 'r', 'u', 'e']
  | falseWord : Spells (.bool false) ['f', 'a', 'l', 's', 'e']
  | int {n : Int} : -(2 ^ 63) ≤ n → n < 2 ^ 64 → Spells (.int n) (intChars n)
  | string (s : String) : Spells (.string s) (quoteChars s)
  | array {js : List Json} {cs : List Char} :
      SpellsItems true js cs → Spells (.array js) ('[' :: cs)
  | object {ms : List (String × Json)} {cs : List Char} :
      SpellsMembers true ms cs → Spells (.object ms) ('\x7b' :: cs)

/-- A text writes the items of a list and its end; whether the next item is
the first one decides what stands in front of it. -/
inductive SpellsItems : Bool → List Json → List Char → Prop
  | stop {first : Bool} {blanks : List Char} :
      Blanks blanks → SpellsItems first [] (blanks ++ [']'])
  | item {first : Bool} {j : Json} {js : List Json} {separator cs tail : List Char} :
      Separator first separator → Spells j cs → SpellsItems false js tail →
      SpellsItems first (j :: js) (separator ++ (cs ++ tail))

/-- A text writes the members of an object and its end. -/
inductive SpellsMembers : Bool → List (String × Json) → List Char → Prop
  | stop {first : Bool} {blanks : List Char} :
      Blanks blanks → SpellsMembers first [] (blanks ++ ['\x7d'])
  | member {first : Bool} {name : String} {j : Json} {ms : List (String × Json)}
      {separator before after cs tail : List Char} :
      Separator first separator → Blanks before → Blanks after → Spells j cs →
      SpellsMembers false ms tail →
      SpellsMembers first ((name, j) :: ms)
        (separator ++ (quoteChars name ++ (before ++ ':' :: (after ++ (cs ++ tail)))))

end

variable {j : Json} {js : List Json} {ms : List (String × Json)} {first : Bool}
variable {cs rest blanks separator : List Char} {fuel levels : Nat}

/-! ## Blanks -/

theorem skipSpaces_of_head (h : ∀ c ∈ cs.head?, isSpace c = false) : skipSpaces cs = cs :=
  Text.dropWhile_eq_self_of_stop h

theorem skipSpaces_append (hblanks : Blanks blanks) :
    skipSpaces (blanks ++ cs) = skipSpaces cs :=
  List.dropWhile_append_of_pos hblanks

/-- Blanks are skipped up to a token. -/
theorem skipSpaces_blanks_cons {c : Char} (hblanks : Blanks blanks) (hc : isSpace c = false) :
    skipSpaces (blanks ++ c :: cs) = c :: cs := by
  rw [skipSpaces_append hblanks]
  refine skipSpaces_of_head fun d hd => ?_
  rw [← Option.some.inj hd, hc]

theorem value_blanks (hblanks : Blanks blanks) (hfuel : 0 < fuel) :
    value fuel levels (blanks ++ cs) = value fuel levels cs := by
  obtain ⟨fuel, rfl⟩ := Nat.exists_eq_add_one.2 hfuel
  rw [value, value, skipSpaces_append hblanks]

/-! ## How a spelling begins -/

theorem isSpace_of_isDigit {c : Char} (hc : c.isDigit = true) : isSpace c = false := by
  rw [← Bool.not_eq_true]
  intro h
  simp only [isSpace, Bool.or_eq_true, decide_eq_true_eq] at h
  rcases h with ((rfl | rfl) | rfl) | rfl <;> exact absurd hc (by decide)

/-- A whole number begins with a minus or a digit. -/
theorem intChars_eq_cons (n : Int) : ∃ c more, intChars n = c :: more ∧
    (c = '-' ∨ c.isDigit = true) := by
  rw [intChars]
  split
  · exact ⟨'-', _, rfl, .inl rfl⟩
  · obtain ⟨c, more, hcs, hc⟩ := toDigits_eq_cons n.natAbs
    exact ⟨c, more, hcs, .inr hc⟩

/-- A spelling begins with no blank and does not end a list. -/
theorem Spells.head (h : Spells j cs) : ∃ c more, cs = c :: more ∧ isSpace c = false ∧ c ≠ ']' := by
  cases h with
  | @int n _ _ =>
    obtain ⟨c, more, hcs, hc⟩ := intChars_eq_cons n
    refine ⟨c, more, hcs, ?_⟩
    rcases hc with rfl | hc
    · decide
    · refine ⟨isSpace_of_isDigit hc, ?_⟩
      rintro rfl
      exact absurd hc (by decide)
  | _ => exact ⟨_, _, rfl, by decide⟩

/-! ## Lengths -/

theorem Spells.length_pos (h : Spells j cs) : 0 < cs.length := by
  obtain ⟨c, more, rfl, -⟩ := h.head
  exact Nat.succ_pos _

theorem SpellsItems.length_pos (h : SpellsItems first js cs) : 0 < cs.length := by
  cases h with
  | stop _ => simp
  | item _ hj _ =>
    have := hj.length_pos
    simp only [List.length_append]
    omega

theorem SpellsMembers.length_pos (h : SpellsMembers first ms cs) : 0 < cs.length := by
  cases h with
  | stop _ => simp
  | member _ _ _ hj _ =>
    have := hj.length_pos
    simp only [List.length_append, List.length_cons]
    omega

/-! ## Behind a value -/

theorem ends_nil : Ends [] := fun _ hc => nomatch hc

theorem ends_blanks (hblanks : Blanks blanks) (h : Ends cs) : Ends (blanks ++ cs) := by
  cases blanks with
  | nil => exact h
  | cons c more =>
    intro d hd
    obtain rfl := Option.some.inj hd
    exact .inl (hblanks c List.mem_cons_self)

theorem Separator.ends (h : Separator false separator) : Ends (separator ++ cs) := by
  cases h with
  | next hbefore _ =>
    rw [List.append_assoc]
    refine ends_blanks hbefore fun d hd => ?_
    exact .inr (.inl (Option.some.inj hd).symm)

theorem SpellsItems.ends (h : SpellsItems false js cs) : Ends (cs ++ rest) := by
  cases h with
  | stop hblanks =>
    rw [List.append_assoc]
    exact ends_blanks hblanks fun d hd => .inr (.inr (.inl (Option.some.inj hd).symm))
  | item hseparator _ _ =>
    rw [List.append_assoc]
    exact hseparator.ends

theorem SpellsMembers.ends (h : SpellsMembers false ms cs) : Ends (cs ++ rest) := by
  cases h with
  | stop hblanks =>
    rw [List.append_assoc]
    exact ends_blanks hblanks fun d hd => .inr (.inr (.inr (Option.some.inj hd).symm))
  | member hseparator _ _ _ _ =>
    rw [List.append_assoc]
    exact hseparator.ends

/-! ## One step of the reader -/

theorem value_null : value (fuel + 1) levels ('n' :: 'u' :: 'l' :: 'l' :: rest) =
    .ok (.null, rest) := rfl

theorem value_true : value (fuel + 1) levels ('t' :: 'r' :: 'u' :: 'e' :: rest) =
    .ok (.bool true, rest) := rfl

theorem value_false : value (fuel + 1) levels ('f' :: 'a' :: 'l' :: 's' :: 'e' :: rest) =
    .ok (.bool false, rest) := rfl

theorem value_minus : value (fuel + 1) levels ('-' :: cs) = number true cs := rfl

theorem value_digit {c : Char} (hc : c.isDigit = true) :
    value (fuel + 1) levels (c :: cs) = number false (c :: cs) := by
  have hskip : skipSpaces (c :: cs) = c :: cs := by
    refine skipSpaces_of_head fun d hd => ?_
    rw [← Option.some.inj hd, isSpace_of_isDigit hc]
  have hne : ∀ d, d.isDigit = false → c ≠ d := by
    rintro d hd rfl
    exact absurd hc (by rw [hd]; decide)
  rw [value, hskip]
  split
  case h_1 heq => exact nomatch heq
  case h_9 heq =>
    obtain ⟨rfl, rfl⟩ := List.cons.inj heq
    exact if_pos hc
  all_goals exact absurd (List.cons.inj ‹_›).1 (hne _ rfl)

theorem value_quote : value (fuel + 1) levels ('"' :: cs) =
    (stringTail cs).map fun (s, rest) => (.string s, rest) := rfl

theorem value_bracket (hlevels : ¬ levels ≤ 1) : value (fuel + 1) levels ('[' :: cs) =
    (items fuel (levels - 1) true cs).map fun (js, rest) => (.array js, rest) :=
  if_neg hlevels

theorem value_brace (hlevels : ¬ levels ≤ 1) : value (fuel + 1) levels ('\x7b' :: cs) =
    (members fuel (levels - 1) true cs).map fun (ms, rest) => (.object ms, rest) :=
  if_neg hlevels

theorem items_stop (hblanks : Blanks blanks) :
    items (fuel + 1) levels first (blanks ++ ']' :: rest) = .ok ([], rest) := by
  rw [items, skipSpaces_blanks_cons hblanks rfl]
  rfl

/-- Behind what separates it, an item is read as a value, and the other items
follow. -/
theorem items_item {c : Char} {tail : List Char} (hseparator : Separator first separator)
    (hc : isSpace c = false) (hne : c ≠ ']')
    (hread : value fuel levels (c :: cs) = .ok (j, tail))
    (hmore : items fuel levels false tail = .ok (js, rest)) :
    items (fuel + 1) levels first (separator ++ c :: cs) = .ok (j :: js, rest) := by
  -- rules out the end of the list where `simp` opens the matches on the text
  have hstop : ∀ more, c :: cs ≠ ']' :: more := fun _ heq => hne (List.cons.inj heq).1
  cases hseparator with
  | first hblanks =>
    rw [items, skipSpaces_blanks_cons hblanks hc]
    simp only [if_true, hread, hmore, Except.map]
  | @next before after hbefore hafter =>
    rw [List.append_assoc, List.cons_append, items, skipSpaces_blanks_cons hbefore rfl]
    simp only [Char.reduceEq, imp_false, not_false_eq_true, Bool.false_eq_true, if_false, if_true,
      skipSpaces_blanks_cons hafter hc, hread, hmore, Except.map]

theorem members_stop (hblanks : Blanks blanks) :
    members (fuel + 1) levels first (blanks ++ '\x7d' :: rest) = .ok ([], rest) := by
  rw [members, skipSpaces_blanks_cons hblanks rfl]
  rfl

/-- Behind what separates it, a member is read as a string, a colon and a
value, and the other members follow. -/
theorem members_member {name : String} {before tail : List Char}
    (hseparator : Separator first separator) (hbefore : Blanks before)
    (hread : value fuel levels cs = .ok (j, tail))
    (hmore : members fuel levels false tail = .ok (ms, rest)) :
    members (fuel + 1) levels first
      (separator ++ (quoteChars name ++ (before ++ ':' :: cs))) = .ok ((name, j) :: ms, rest) := by
  have hname : stringTail (name.toList.flatMap escapeChar ++ '"' :: (before ++ ':' :: cs)) =
      .ok (name, before ++ ':' :: cs) := stringTail_quoted name
  have hopen : isSpace '"' = false := rfl
  have hcolon : isSpace ':' = false := rfl
  have hquote : quoteChars name ++ (before ++ ':' :: cs) =
      '"' :: (name.toList.flatMap escapeChar ++ '"' :: (before ++ ':' :: cs)) := by
    rw [quoteChars, List.append_assoc, List.cons_append, List.singleton_append]
  rw [hquote]
  cases hseparator with
  | first hblanks =>
    rw [members, skipSpaces_blanks_cons hblanks rfl]
    simp only [Char.reduceEq, imp_false, not_false_eq_true, if_true, hname,
      skipSpaces_blanks_cons hbefore hcolon, hread, hmore, Except.map]
  | @next front back hfront hback =>
    rw [List.append_assoc, List.cons_append, members, skipSpaces_blanks_cons hfront rfl]
    simp only [Char.reduceEq, imp_false, not_false_eq_true, Bool.false_eq_true, if_false, if_true,
      skipSpaces_blanks_cons hback hopen, hname, skipSpaces_blanks_cons hbefore hcolon, hread,
      hmore, Except.map]

/-- A whole number in range is read back. -/
theorem value_intChars {n : Int} (hlow : -(2 ^ 63) ≤ n) (hhigh : n < 2 ^ 64) (hrest : Ends rest) :
    value (fuel + 1) levels (intChars n ++ rest) = .ok (.int n, rest) := by
  have hfits : n.natAbs < 0x10000000000000000 := by omega
  rw [intChars]
  split
  · rename_i hneg
    have hwhole : wholeNumber true n.natAbs = .int n := by
      have hnonzero : (n.natAbs == 0) = false := beq_eq_false_iff_ne.2 (by omega)
      have hsmall : ¬ 0x8000000000000000 < n.natAbs := by omega
      have hvalue : -(n.natAbs : Int) = n := by omega
      simp only [wholeNumber, hnonzero, hsmall, hvalue, Bool.not_true, Bool.false_eq_true,
        decide_false, Bool.or_false, if_false]
    rw [List.append_assoc, List.singleton_append, value_minus, number_toDigits hfits hrest, hwhole]
  · rename_i hneg
    have hwhole : wholeNumber false n.natAbs = .int n := by
      have hvalue : (n.natAbs : Int) = n := by omega
      simp only [wholeNumber, hvalue, Bool.not_false, if_true]
    obtain ⟨c, more, hcs, hc⟩ := toDigits_eq_cons n.natAbs
    have hread : number false (Nat.toDigits 10 n.natAbs ++ rest) = _ :=
      number_toDigits hfits hrest
    rw [hwhole, hcs, List.cons_append] at hread
    rw [List.nil_append, hcs, List.cons_append, value_digit hc, hread]

/-! ## Reading a spelling -/

-- By induction on the value. A part of a container is shorter than what is
-- left of the container, so the steps suffice, and it nests less deep.
mutual

/-- **Every spelling of a value is read as the value**, in as many steps as
it has characters. -/
theorem value_spells : ∀ (j : Json) {cs rest : List Char} {fuel levels : Nat}, Spells j cs →
    cs.length ≤ fuel → j.nesting < levels → Ends rest →
    value fuel levels (cs ++ rest) = .ok (j, rest)
  | j, cs, rest, 0, levels, h, hfuel, _, _ =>
    absurd h.length_pos (Nat.not_lt_of_le hfuel)
  | .null, _, _, _ + 1, _, .nullWord, _, _, _ => value_null
  | .bool true, _, _, _ + 1, _, .trueWord, _, _, _ => value_true
  | .bool false, _, _, _ + 1, _, .falseWord, _, _, _ => value_false
  | .int n, _, _, _ + 1, _, .int hlow hhigh, _, _, hrest => value_intChars hlow hhigh hrest
  | .string s, _, rest, _ + 1, _, .string _, _, _, _ => by
    rw [quoteChars, List.append_assoc, List.cons_append, value_quote, List.singleton_append,
      stringTail_quoted]
    rfl
  | .array js, _, _, fuel + 1, _, .array h, hfuel, hlevels, _ => by
    rw [nesting] at hlevels
    rw [List.cons_append, value_bracket (by omega),
      items_spells js h (Nat.le_of_succ_le_succ hfuel) (by omega)]
    rfl
  | .object ms, _, _, fuel + 1, _, .object h, hfuel, hlevels, _ => by
    rw [nesting] at hlevels
    rw [List.cons_append, value_brace (by omega),
      members_spells ms h (Nat.le_of_succ_le_succ hfuel) (by omega)]
    rfl

theorem items_spells : ∀ (js : List Json) {first : Bool} {cs rest : List Char} {fuel levels : Nat},
    SpellsItems first js cs → cs.length ≤ fuel → nestingItems js < levels →
    items fuel levels first (cs ++ rest) = .ok (js, rest)
  | js, first, cs, rest, 0, levels, h, hfuel, _ =>
    absurd h.length_pos (Nat.not_lt_of_le hfuel)
  | [], _, _, rest, _ + 1, _, .stop hblanks, _, _ => by
    rw [List.append_assoc, List.singleton_append, items_stop hblanks]
  | j :: js, _, _, rest, fuel + 1, levels,
    @SpellsItems.item _ _ _ separator cs tail hseparator hj hjs, hfuel, hlevels => by
    rw [nestingItems, Nat.max_lt] at hlevels
    rw [List.length_append, List.length_append] at hfuel
    have hitem := hj.length_pos
    have htail := hjs.length_pos
    have hread : value fuel levels (cs ++ (tail ++ rest)) = .ok (j, tail ++ rest) :=
      value_spells j hj (by omega) hlevels.1 hjs.ends
    have hmore : items fuel levels false (tail ++ rest) = .ok (js, rest) :=
      items_spells js hjs (by omega) hlevels.2
    obtain ⟨c, more, hcs, hc, hne⟩ := hj.head
    rw [hcs, List.cons_append] at hread
    rw [List.append_assoc, List.append_assoc, hcs, List.cons_append]
    exact items_item hseparator hc hne hread hmore

theorem members_spells : ∀ (ms : List (String × Json)) {first : Bool} {cs rest : List Char}
    {fuel levels : Nat}, SpellsMembers first ms cs → cs.length ≤ fuel →
    nestingMembers ms < levels → members fuel levels first (cs ++ rest) = .ok (ms, rest)
  | ms, first, cs, rest, 0, levels, h, hfuel, _ =>
    absurd h.length_pos (Nat.not_lt_of_le hfuel)
  | [], _, _, rest, _ + 1, _, .stop hblanks, _, _ => by
    rw [List.append_assoc, List.singleton_append, members_stop hblanks]
  | (name, j) :: ms, _, _, rest, fuel + 1, levels,
    @SpellsMembers.member _ _ _ _ separator before after cs tail hseparator hbefore hafter hj hms,
    hfuel, hlevels => by
    rw [nestingMembers, Nat.max_lt] at hlevels
    simp only [List.length_append, List.length_cons] at hfuel
    have hvalue := hj.length_pos
    have hread : value fuel levels (after ++ (cs ++ (tail ++ rest))) = .ok (j, tail ++ rest) := by
      rw [value_blanks hafter (by omega)]
      exact value_spells j hj (by omega) hlevels.1 hms.ends
    have hmore : members fuel levels false (tail ++ rest) = .ok (ms, rest) :=
      members_spells ms hms (by omega) hlevels.2
    simp only [List.append_assoc, List.cons_append]
    exact members_member hseparator hbefore hread hmore

end

/-- **A text that spells a value is read as the value**, as long as
containers nest less deep than the limit. -/
theorem readChars_of_spells (h : Spells j cs) (hdepth : j.nesting < depthLimit) :
    readChars cs = .ok j := by
  have hread : value (2 * cs.length + 2) depthLimit (cs ++ []) = .ok (j, []) :=
    value_spells j h (by omega) hdepth ends_nil
  rw [List.append_nil] at hread
  rw [readChars, hread]
  rfl

end Json

end DeployLint
