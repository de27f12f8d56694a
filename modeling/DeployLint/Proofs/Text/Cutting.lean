import Mathlib.Data.List.Basic
import DeployLint.Proofs.Text.Runs

/-!
# Text — the sides of a separator

A text that is cut at the first occurrence of a separator has none on the
left side, one that is cut at the last has none on the right, and a text
without the separator is not cut. So what stands before the first, or behind
the last, is the run of other characters at that end of the text
(`toList_beforeFirst`, `toList_behindLast`).
-/

namespace DeployLint

namespace Text

variable {sep : Char} {s left right : String}

/-! ## The first occurrence -/

theorem cutFirstChars?_eq_some_iff {sep : Char} {cs left right : List Char} :
    cutFirstChars? sep cs = some (left, right) ↔ cs = left ++ sep :: right ∧ sep ∉ left := by
  induction cs generalizing left with
  | nil => exact ⟨fun h => (nomatch h), fun h => absurd h.1.symm (by simp)⟩
  | cons c cs ih =>
    rw [cutFirstChars?]
    cases left with
    | nil =>
      split
      · rename_i heq
        simp [heq]
      · rename_i hne
        simp [hne]
    | cons l left =>
      split
      · rename_i heq
        refine ⟨fun h => (nomatch h), fun ⟨hcs, hsep⟩ => ?_⟩
        obtain ⟨rfl, -⟩ := List.cons.inj hcs
        exact absurd (heq ▸ List.mem_cons_self) hsep
      · rename_i hne
        simp only [Option.map_eq_some_iff, Prod.exists, Prod.mk.injEq, List.cons.injEq,
          List.cons_append, List.mem_cons, not_or]
        constructor
        · rintro ⟨l', r', hcut, ⟨rfl, rfl⟩, rfl⟩
          obtain ⟨hcs, hsep⟩ := ih.1 hcut
          exact ⟨⟨rfl, hcs⟩, Ne.symm hne, hsep⟩
        · rintro ⟨⟨rfl, hcs⟩, -, hsep⟩
          exact ⟨left, right, ih.2 ⟨hcs, hsep⟩, ⟨rfl, rfl⟩, rfl⟩

/-- The first occurrence of a separator has a text on either side, and none on the left. -/
theorem cutFirst?_eq_some_iff :
    cutFirst? sep s = some (left, right) ↔
      s.toList = left.toList ++ sep :: right.toList ∧ sep ∉ left.toList := by
  rw [cutFirst?, Option.map_eq_some_iff, ← cutFirstChars?_eq_some_iff]
  constructor
  · rintro ⟨⟨before, behind⟩, hcut, hsides⟩
    obtain ⟨rfl, rfl⟩ := Prod.mk.inj hsides
    rwa [String.toList_ofList, String.toList_ofList]
  · intro hcut
    exact ⟨_, hcut, Prod.ext String.ofList_toList String.ofList_toList⟩

theorem cutFirst?_eq_none_iff : cutFirst? sep s = none ↔ sep ∉ s.toList := by
  constructor
  · intro hnone hmem
    obtain ⟨left, right, hs, hleft⟩ := List.eq_append_cons_of_mem hmem
    have hcut : cutFirst? sep s = some (String.ofList left, String.ofList right) :=
      cutFirst?_eq_some_iff.2 (by simpa using ⟨hs, hleft⟩)
    exact nomatch hnone.symm.trans hcut
  · refine fun h => Option.eq_none_iff_forall_ne_some.2 fun sides hcut => h ?_
    rw [(cutFirst?_eq_some_iff.1 hcut).1]
    exact List.mem_append_right _ List.mem_cons_self

/-- What stands before the first occurrence of a separator; the whole text if there is none. -/
def beforeFirst (sep : Char) (s : String) : String := ((cutFirst? sep s).map (·.1)).getD s

theorem toList_beforeFirst (sep : Char) (s : String) :
    (beforeFirst sep s).toList = s.toList.takeWhile (· ≠ sep) := by
  rw [beforeFirst]
  cases hcut : cutFirst? sep s with
  | none =>
    have hmem : sep ∉ s.toList := cutFirst?_eq_none_iff.1 hcut
    refine (List.takeWhile_eq_self_iff.2 fun c hc => decide_eq_true ?_).symm
    exact ne_of_mem_of_not_mem hc hmem
  | some sides =>
    obtain ⟨left, right⟩ := sides
    obtain ⟨hs, hleft⟩ := cutFirst?_eq_some_iff.1 hcut
    rw [hs, takeWhile_append_of_stop (fun c hc => decide_eq_true (ne_of_mem_of_not_mem hc hleft))
      (by simp)]
    rfl

theorem mem_beforeFirst {c : Char} (h : c ∈ (beforeFirst sep s).toList) : c ∈ s.toList ∧ c ≠ sep := by
  rw [toList_beforeFirst] at h
  have hne := List.mem_takeWhile_imp h
  exact ⟨(List.takeWhile_sublist _).subset h, of_decide_eq_true hne⟩

/-- A text without the separator stands before what is empty or begins with it. -/
theorem beforeFirst_append (hleft : sep ∉ left.toList) (hright : ∀ c ∈ right.toList.head?, c = sep) :
    beforeFirst sep (left ++ right) = left := by
  rw [← String.toList_inj, toList_beforeFirst, String.toList_append]
  exact takeWhile_append_of_stop (fun c hc => decide_eq_true (ne_of_mem_of_not_mem hc hleft))
    fun c hc => decide_eq_false (not_not_intro (hright c hc))

/-! ## The last occurrence -/

/-- The last occurrence of a separator has a text on either side, and none on the right. -/
theorem cutLast?_eq_some_iff {sep : Char} {left right : String} :
    cutLast? sep s = some (left, right) ↔
      s.toList = left.toList ++ sep :: right.toList ∧ sep ∉ right.toList := by
  rw [cutLast?, cutLastChars?, Option.map_map, Option.map_eq_some_iff]
  constructor
  · rintro ⟨⟨behind, before⟩, hcut, hsides⟩
    obtain ⟨rfl, rfl⟩ := Prod.mk.inj hsides
    obtain ⟨hreverse, hsep⟩ := cutFirstChars?_eq_some_iff.1 hcut
    have hs : s.toList = before.reverse ++ sep :: behind.reverse := by
      rw [← List.reverse_reverse s.toList, hreverse]
      simp
    simpa using ⟨hs, hsep⟩
  · rintro ⟨hs, hsep⟩
    refine ⟨(right.toList.reverse, left.toList.reverse), cutFirstChars?_eq_some_iff.2 ⟨?_, ?_⟩, ?_⟩
    · simp [hs]
    · simpa using hsep
    · simp

theorem cutLast?_eq_none_iff : cutLast? sep s = none ↔ sep ∉ s.toList := by
  constructor
  · intro hnone hmem
    obtain ⟨behind, before, hs, hbehind⟩ := List.eq_append_cons_of_mem (List.mem_reverse.2 hmem)
    have hreverse : s.toList = before.reverse ++ sep :: behind.reverse := by
      rw [← List.reverse_reverse s.toList, hs]
      simp
    have hcut : cutLast? sep s =
        some (String.ofList before.reverse, String.ofList behind.reverse) :=
      cutLast?_eq_some_iff.2 (by simpa using ⟨hreverse, hbehind⟩)
    exact nomatch hnone.symm.trans hcut
  · refine fun h => Option.eq_none_iff_forall_ne_some.2 fun sides hcut => h ?_
    rw [(cutLast?_eq_some_iff.1 hcut).1]
    exact List.mem_append_right _ List.mem_cons_self

/-- What stands before the last occurrence of a separator; nothing if there is none. -/
def beforeLast (sep : Char) (s : String) : String := ((cutLast? sep s).map (·.1)).getD ""

/-- What stands behind the last occurrence of a separator; the whole text if there is none. -/
def behindLast (sep : Char) (s : String) : String := ((cutLast? sep s).map (·.2)).getD s

/-- A text with the separator is cut into these two. -/
theorem cutLast?_of_mem (h : sep ∈ s.toList) :
    cutLast? sep s = some (beforeLast sep s, behindLast sep s) := by
  rw [beforeLast, behindLast]
  cases hcut : cutLast? sep s with
  | none => exact absurd h (cutLast?_eq_none_iff.1 hcut)
  | some sides => rfl

theorem toList_behindLast (sep : Char) (s : String) :
    (behindLast sep s).toList = (s.toList.reverse.takeWhile (· ≠ sep)).reverse := by
  rw [behindLast]
  cases hcut : cutLast? sep s with
  | none =>
    have hmem : sep ∉ s.toList.reverse := mt List.mem_reverse.1 (cutLast?_eq_none_iff.1 hcut)
    rw [List.takeWhile_eq_self_iff.2 fun c hc => decide_eq_true (ne_of_mem_of_not_mem hc hmem),
      List.reverse_reverse]
    rfl
  | some sides =>
    obtain ⟨left, right⟩ := sides
    obtain ⟨hs, hright⟩ := cutLast?_eq_some_iff.1 hcut
    have hrun : ∀ c ∈ right.toList.reverse, decide (c ≠ sep) = true :=
      fun c hc => decide_eq_true (ne_of_mem_of_not_mem (List.mem_reverse.1 hc) hright)
    rw [hs, List.reverse_append, List.reverse_cons, List.append_assoc,
      takeWhile_append_of_stop hrun (by simp), List.reverse_reverse]
    rfl

theorem mem_behindLast {c : Char} (h : c ∈ (behindLast sep s).toList) : c ∈ s.toList ∧ c ≠ sep := by
  rw [toList_behindLast, List.mem_reverse] at h
  have hmem : c ∈ s.toList.reverse := (List.takeWhile_sublist _).subset h
  have hne := List.mem_takeWhile_imp h
  exact ⟨List.mem_reverse.1 hmem, of_decide_eq_true hne⟩

/-- A text without the separator stands behind what is empty or ends with it. -/
theorem behindLast_append (hleft : ∀ c ∈ left.toList.getLast?, c = sep) (hright : sep ∉ right.toList) :
    behindLast sep (left ++ right) = right := by
  have hrun : ∀ c ∈ right.toList.reverse, decide (c ≠ sep) = true :=
    fun c hc => decide_eq_true (ne_of_mem_of_not_mem (List.mem_reverse.1 hc) hright)
  rw [← List.head?_reverse] at hleft
  rw [← String.toList_inj, toList_behindLast, String.toList_append, List.reverse_append,
    takeWhile_append_of_stop hrun fun c hc => decide_eq_false (not_not_intro (hleft c hc)),
    List.reverse_reverse]

/-- **A last word is known from the text that ends with it**, and so is what stands in front of it. -/
theorem append_inj_of_behindLast {left' right' : String}
    (hleft : ∀ c ∈ left.toList.getLast?, c = sep) (hright : sep ∉ right.toList)
    (hleft' : ∀ c ∈ left'.toList.getLast?, c = sep) (hright' : sep ∉ right'.toList)
    (h : left ++ right = left' ++ right') : left = left' ∧ right = right' := by
  obtain rfl : right = right' := by
    rw [← behindLast_append hleft hright, h, behindLast_append hleft' hright']
  exact ⟨(String.append_left_inj right).1 h, rfl⟩

end Text

end DeployLint
