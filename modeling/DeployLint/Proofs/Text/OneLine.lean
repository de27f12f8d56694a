import DeployLint.Proofs.Text.Cutting
import DeployLint.Proofs.Text.Lines
import DeployLint.Proofs.Text.Occurrence

/-!
# Text — texts on one line

A text that is put together stays on one line where its parts do. Texts that
are written one below the other are cut at their line feeds into the lines of
each (`fields_intercalate_newline`), so they are the lines themselves exactly
where each of them stays on one (`flatMap_fields_eq_iff`).
-/

namespace DeployLint

namespace Text

variable {s t : String}

/-! ## Putting texts together -/

@[simp] theorem oneLine_append : OneLine (s ++ t) ↔ OneLine s ∧ OneLine t := by
  rw [OneLine, String.toList_append, List.mem_append, not_or]
  exact Iff.rfl

@[simp] theorem oneLine_toString : OneLine (toString s) ↔ OneLine s := Iff.rfl

@[simp] theorem oneLine_ofList {cs : List Char} : OneLine (String.ofList cs) ↔ '\n' ∉ cs := by
  rw [OneLine, String.toList_ofList]

/-- A digit is no line feed. -/
theorem newline_not_mem_toDigits (n : Nat) : '\n' ∉ Nat.toDigits 10 n := by
  intro hmem
  have hdigit := Nat.isDigit_of_mem_toDigits (by decide) (by decide) hmem
  exact absurd hdigit (by decide)

@[simp] theorem oneLine_repr (n : Nat) : OneLine n.repr := by
  rw [Nat.repr_eq_ofList_toDigits, oneLine_ofList]
  exact newline_not_mem_toDigits n

theorem oneLine_toString_int (n : Int) : OneLine (toString n) := by
  cases n with
  | ofNat n => exact oneLine_repr n
  | negSucc n => exact oneLine_append.2 ⟨by decide, oneLine_repr n.succ⟩

theorem oneLine_join {ls : List String} (h : ∀ l ∈ ls, OneLine l) : OneLine (String.join ls) := by
  intro hmem
  rw [String.toList_join] at hmem
  obtain ⟨l, hl, hmem⟩ := List.mem_flatMap.1 hmem
  exact h l hl hmem

theorem oneLine_intercalate {sep : String} (hsep : OneLine sep) {ls : List String}
    (h : ∀ l ∈ ls, OneLine l) : OneLine (sep.intercalate ls) := by
  induction ls with
  | nil => exact List.not_mem_nil
  | cons l ls ih =>
    obtain ⟨hl, hls⟩ := List.forall_mem_cons.1 h
    cases ls with
    | nil =>
      rw [String.intercalate_singleton]
      exact hl
    | cons l' ls =>
      rw [String.intercalate_cons_cons, oneLine_append, oneLine_append]
      exact ⟨⟨hl, hsep⟩, ih hls⟩

/-! ## Parts of texts -/

theorem oneLine_trim (h : OneLine s) : OneLine (trim s) := by
  refine oneLine_ofList.2 fun hmem => h ?_
  have hreverse := List.mem_reverse.1 hmem
  have hmiddle := List.mem_reverse.1 ((List.dropWhile_sublist _).subset hreverse)
  exact (List.dropWhile_sublist _).subset hmiddle

/-- Lower case neither makes line feeds nor takes them away. -/
theorem toLower_eq_newline_iff {c : Char} : c.toLower = '\n' ↔ c = '\n' := by
  delta Char.toLower
  split
  · rename_i hupper
    have hlow : 65 ≤ c.val.toNat := UInt32.le_iff_toNat_le.1 hupper.1
    have hhigh : c.val.toNat ≤ 90 := UInt32.le_iff_toNat_le.1 hupper.2
    constructor
    · intro h
      have hval : (c.val + 32).toNat = 10 := congrArg (fun c : Char => c.val.toNat) h
      have hsum : (c.val.toNat + 32) % 4294967296 = 10 := (UInt32.toNat_add c.val 32).symm.trans hval
      omega
    · rintro rfl
      exact absurd hupper (by decide)
  · exact Iff.rfl

theorem oneLine_lower : OneLine (lower s) ↔ OneLine s := by
  simp [OneLine, toLower_eq_newline_iff]

/-- A word that stands in a line is on one line. -/
theorem oneLine_of_standsIn (h : StandsIn t s) (hs : OneLine s) : OneLine t := by
  obtain ⟨before, found, after, rfl, hfound⟩ := h
  rw [oneLine_append, oneLine_append] at hs
  rw [← oneLine_lower, ← hfound, oneLine_lower]
  exact hs.1.2

/-- Both sides of a separator stay on one line where the text does. -/
theorem oneLine_of_cutLast? {sep : Char} {left right : String}
    (hcut : cutLast? sep s = some (left, right)) (h : OneLine s) :
    OneLine left ∧ OneLine right := by
  rw [OneLine, (cutLast?_eq_some_iff.1 hcut).1, List.mem_append, List.mem_cons, not_or, not_or] at h
  exact ⟨h.1, h.2.2⟩

/-! ## Cutting at line feeds -/

theorem fieldChars_ne_nil (sep : Char) (cs : List Char) : fieldChars sep cs ≠ [] := by
  cases cs with
  | nil => exact List.cons_ne_nil _ _
  | cons c cs =>
    rw [fieldChars]
    split
    · exact List.cons_ne_nil _ _
    · split <;> exact List.cons_ne_nil _ _

/-- A separator between two texts keeps their fields apart. -/
theorem fieldChars_append_cons (sep : Char) (cs rest : List Char) :
    fieldChars sep (cs ++ sep :: rest) = fieldChars sep cs ++ fieldChars sep rest := by
  induction cs with
  | nil => rw [List.nil_append, fieldChars.eq_2, if_pos rfl, fieldChars.eq_1, List.singleton_append]
  | cons c cs ih =>
    rw [List.cons_append, fieldChars, fieldChars, ih]
    split
    · rw [List.cons_append]
    · cases hcs : fieldChars sep cs with
      | nil => exact absurd hcs (fieldChars_ne_nil sep cs)
      | cons f fs => rfl

/-- There is one field more than there are separators. -/
theorem length_fieldChars (sep : Char) (cs : List Char) :
    (fieldChars sep cs).length = cs.count sep + 1 := by
  induction cs with
  | nil => rfl
  | cons c cs ih =>
    rw [fieldChars, List.count_cons]
    split
    · rename_i heq
      rw [List.length_cons, ih, heq, beq_self_eq_true, if_pos rfl]
    · rename_i hne
      rw [beq_false_of_ne hne, if_neg Bool.false_ne_true, Nat.add_zero, ← ih]
      cases hcs : fieldChars sep cs with
      | nil => exact absurd hcs (fieldChars_ne_nil sep cs)
      | cons f fs => rfl

theorem fieldChars_eq_singleton {sep : Char} {cs : List Char} (h : sep ∉ cs) :
    fieldChars sep cs = [cs] := by
  induction cs with
  | nil => rfl
  | cons c cs ih =>
    obtain ⟨hc, hcs⟩ := not_or.1 (mt List.mem_cons.2 h)
    rw [fieldChars, if_neg (Ne.symm hc), ih hcs]

theorem not_mem_of_mem_fieldChars {sep : Char} {cs field : List Char}
    (h : field ∈ fieldChars sep cs) : sep ∉ field := by
  induction cs generalizing field with
  | nil =>
    obtain rfl := List.mem_singleton.1 h
    exact List.not_mem_nil
  | cons c cs ih =>
    rw [fieldChars] at h
    split at h
    · rcases List.mem_cons.1 h with rfl | h
      · exact List.not_mem_nil
      · exact ih h
    · rename_i hc
      cases hcs : fieldChars sep cs with
      | nil => exact absurd hcs (fieldChars_ne_nil sep cs)
      | cons f fs =>
        rw [hcs] at h ih
        rcases List.mem_cons.1 h with rfl | h
        · intro hmem
          rcases List.mem_cons.1 hmem with heq | hmem
          · exact hc heq.symm
          · exact ih List.mem_cons_self hmem
        · exact ih (List.mem_cons_of_mem f h)

theorem fields_newline_of_oneLine (h : OneLine s) : fields '\n' s = [s] := by
  rw [fields, fieldChars_eq_singleton h, List.map_singleton, String.ofList_toList]

theorem oneLine_of_mem_fields (h : t ∈ fields '\n' s) : OneLine t := by
  obtain ⟨field, hfield, rfl⟩ := List.mem_map.1 h
  exact oneLine_ofList.2 (not_mem_of_mem_fieldChars hfield)

/-- **Texts one below the other are cut into the lines of each.** -/
theorem fields_intercalate_newline {ls : List String} (hls : ls ≠ []) :
    fields '\n' ("\n".intercalate ls) = ls.flatMap (fields '\n') := by
  induction ls with
  | nil => exact absurd rfl hls
  | cons l ls ih =>
    cases ls with
    | nil => rw [String.intercalate_singleton, List.flatMap_singleton]
    | cons l' ls =>
      have hchars : (l ++ "\n" ++ "\n".intercalate (l' :: ls)).toList =
          l.toList ++ '\n' :: ("\n".intercalate (l' :: ls)).toList := by simp
      rw [String.intercalate_cons_cons, List.flatMap_cons, ← ih (List.cons_ne_nil l' ls), fields,
        hchars, fieldChars_append_cons, List.map_append]
      rfl

/-- They come back as they were where each of them is on one line, and only there. -/
theorem flatMap_fields_eq_iff {ls : List String} :
    ls.flatMap (fields '\n') = ls ↔ ∀ l ∈ ls, OneLine l := by
  constructor
  · intro h l hl
    rw [← h] at hl
    obtain ⟨s, -, hfield⟩ := List.mem_flatMap.1 hl
    exact oneLine_of_mem_fields hfield
  · intro h
    calc ls.flatMap (fields '\n')
        = ls.flatMap fun l => [l] :=
          List.flatMap_congr fun l hl => fields_newline_of_oneLine (h l hl)
      _ = ls := List.flatMap_singleton' ls

/-- There are as many lines as texts, and one more for each line feed in one. -/
theorem length_flatMap_fields (ls : List String) :
    (ls.flatMap (fields '\n')).length =
      ls.length + (ls.flatMap String.toList).count '\n' := by
  induction ls with
  | nil => rfl
  | cons l ls ih =>
    rw [List.flatMap_cons, List.length_append, ih, fields, List.length_map, length_fieldChars,
      List.length_cons, List.flatMap_cons, List.count_append]
    omega

end Text

end DeployLint
