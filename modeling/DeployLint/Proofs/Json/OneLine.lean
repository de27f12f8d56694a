import DeployLint.Json.Writer
import DeployLint.Proofs.Text.OneLine

/-!
# JSON — values on one line

Whatever text a value holds, its compact form stays on one line: line feeds
are escaped (`oneLine_compact`). Numbers and words hold none.
-/

namespace DeployLint

open Text (OneLine newline_not_mem_toDigits)

/-! ## Numbers -/

namespace Decimal

/-- A layout whose own texts hold no line feed. -/
structure Layout.IsOneLine (layout : Layout) : Prop where
  wholeEnding : '\n' ∉ layout.wholeEnding
  exponentPlus : '\n' ∉ layout.exponentPlus
  infinite : '\n' ∉ layout.infinite
  undefined : '\n' ∉ layout.undefined

theorem isOneLine_plain : plain.IsOneLine := by constructor <;> decide

theorem isOneLine_json : json.IsOneLine := by constructor <;> decide

variable {layout : Layout}

theorem newline_not_mem_positionalChars (h : layout.IsOneLine) (d : Digits) :
    '\n' ∉ positionalChars layout d := by
  have hdigits : '\n' ∉ d.chars := newline_not_mem_toDigits d.value
  have hzeros : ∀ n, '\n' ∉ List.replicate n '0' := fun n => by simp
  have htake : ∀ n, '\n' ∉ d.chars.take n := fun n hmem => hdigits (List.mem_of_mem_take hmem)
  have hdrop : ∀ n, '\n' ∉ d.chars.drop n := fun n hmem => hdigits (List.mem_of_mem_drop hmem)
  simp only [positionalChars]
  split
  · simp [hdigits, hzeros, h.wholeEnding]
  · split
    · simp [htake, hdrop]
    · simp [hdigits, hzeros]

theorem newline_not_mem_scientificChars (h : layout.IsOneLine) (d : Digits) :
    '\n' ∉ scientificChars layout d := by
  have hdigits : '\n' ∉ d.chars := newline_not_mem_toDigits d.value
  have hsign : '\n' ∉ (if d.scientific < 0 then ['-'] else layout.exponentPlus) := by
    split
    · decide
    · exact h.exponentPlus
  simp only [scientificChars, List.cons_append, List.append_assoc, List.mem_append,
    List.mem_cons, not_or]
  refine ⟨?_, by decide, hsign, newline_not_mem_toDigits _⟩
  -- the digits in front, with a point behind the first if there are more
  split
  · exact List.not_mem_nil
  · rename_i c hchars
    exact hchars ▸ hdigits
  · rename_i c cs hchars
    rw [hchars, List.mem_cons, not_or] at hdigits
    simp [hdigits]

/-- **A number is on one line.** -/
theorem Layout.IsOneLine.newline_not_mem_chars (h : layout.IsOneLine) (x : Float) :
    '\n' ∉ layout.chars x := by
  have hsign : ∀ b : Bool, '\n' ∉ (if b then ['-'] else []) := by decide
  simp only [Layout.chars]
  split
  · exact h.undefined
  · exact List.not_mem_append (hsign _) h.infinite
  · refine List.not_mem_append (hsign _) ?_
    split
    · exact newline_not_mem_positionalChars h _
    · exact newline_not_mem_scientificChars h _

end Decimal

namespace Json

/-! ## Leaves -/

/-- A line feed is written as an escape, and no other character is written with one. -/
theorem newline_not_mem_escapeChar (c : Char) : '\n' ∉ escapeChar c := by
  have hdigit : ∀ n, n < 16 → '\n' ≠ hexDigit n := by decide
  unfold escapeChar
  repeat' split
  all_goals try decide
  · rename_i hcontrol
    have hhigh := hdigit (c.toNat / 16) (by omega)
    have hlow := hdigit (c.toNat % 16) (by omega)
    simp [hhigh, hlow]
  · rename_i hfeed _ _ _
    exact fun hmem => hfeed (List.mem_singleton.1 hmem).symm

theorem newline_not_mem_quoteChars (s : String) : '\n' ∉ quoteChars s := by
  have hbody : '\n' ∉ s.toList.flatMap escapeChar := by
    intro hmem
    obtain ⟨c, -, hc⟩ := List.mem_flatMap.1 hmem
    exact newline_not_mem_escapeChar c hc
  simp [quoteChars, hbody]

theorem newline_not_mem_intChars (n : Int) : '\n' ∉ intChars n := by
  have hdigits := newline_not_mem_toDigits n.natAbs
  rw [intChars]
  split <;> simp [hdigits]

theorem newline_not_mem_floatChars (x : Float) : '\n' ∉ floatChars x := by
  rw [floatChars]
  split
  · exact Decimal.isOneLine_json.newline_not_mem_chars x
  · decide

/-! ## The compact form -/

mutual

theorem newline_not_mem_compactChars : ∀ j : Json, '\n' ∉ compactChars j
  | .null => by decide
  | .bool true => by decide
  | .bool false => by decide
  | .int n => newline_not_mem_intChars n
  | .float x => newline_not_mem_floatChars x
  | .string s => newline_not_mem_quoteChars s
  | .array [] => by decide
  | .array (item :: items) => by
    have hitem := newline_not_mem_compactChars item
    have hitems := newline_not_mem_compactItems items
    simp [compactChars, hitem, hitems]
  | .object [] => by decide
  | .object ((name, value) :: members) => by
    have hname := newline_not_mem_quoteChars name
    have hvalue := newline_not_mem_compactChars value
    have hmembers := newline_not_mem_compactMembers members
    simp [compactChars, hname, hvalue, hmembers]

theorem newline_not_mem_compactItems : ∀ items : List Json, '\n' ∉ compactItems items
  | [] => List.not_mem_nil
  | item :: items => by
    have hitem := newline_not_mem_compactChars item
    have hitems := newline_not_mem_compactItems items
    simp [compactItems, hitem, hitems]

theorem newline_not_mem_compactMembers : ∀ members : List (String × Json),
    '\n' ∉ compactMembers members
  | [] => List.not_mem_nil
  | (name, value) :: members => by
    have hname := newline_not_mem_quoteChars name
    have hvalue := newline_not_mem_compactChars value
    have hmembers := newline_not_mem_compactMembers members
    simp [compactMembers, hname, hvalue, hmembers]

end

/-- **The compact form of a value is on one line**, whatever texts it holds. -/
theorem oneLine_compact (j : Json) : OneLine j.compact :=
  Text.oneLine_ofList.2 (newline_not_mem_compactChars j)

end Json

end DeployLint
