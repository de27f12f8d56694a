import DeployLint.Finding
import DeployLint.Proofs.Text.OneLine

/-!
# Findings — findings on one line

A finding is shown as where it is, how grave it is, of which rule, and a
message. Severities and codes are words of the library, so a finding is on one
line exactly if its subject, its path and its message are (`oneLine_text_iff`).
-/

namespace DeployLint

namespace Finding

variable {f : Finding}

/-- A finding whose texts stay on one line. -/
structure OnOneLine (f : Finding) : Prop where
  code : Text.OneLine f.code
  path : ∀ path ∈ f.path, Text.OneLine path
  message : Text.OneLine f.message

theorem oneLine_severityText (s : Severity) : Text.OneLine s.text := by
  cases s <;> decide

/-- **A finding is shown on one line exactly if its texts are**, where what it
is about is. -/
theorem oneLine_text_iff (hsubject : Text.OneLine f.subject.text) :
    Text.OneLine f.text ↔ f.OnOneLine := by
  have hline : Text.OneLine ((f.line.map fun line => ":" ++ toString line).getD "") := by
    cases f.line with
    | none => decide
    | some line => exact Text.oneLine_append.2 ⟨by decide, Text.oneLine_repr line.toNat⟩
  have hpath : Text.OneLine ((f.path.map (":" ++ ·)).getD "") ↔
      ∀ path ∈ f.path, Text.OneLine path := by
    have hcolon : Text.OneLine ":" := by decide
    cases f.path with
    | none => simp +decide
    | some path => simp [hcolon]
  have hcolon : Text.OneLine ": " := by decide
  have hspace : Text.OneLine " " := by decide
  simp only [Finding.text, Text.oneLine_append, hsubject, hline, hpath, hcolon, hspace,
    oneLine_severityText, true_and, and_true]
  constructor
  · rintro ⟨⟨hpath, hcode⟩, hmessage⟩
    exact ⟨hcode, hpath, hmessage⟩
  · intro h
    exact ⟨⟨h.path, h.code⟩, h.message⟩

end Finding

theorem Rule.oneLine_code (rule : Rule) : Text.OneLine rule.code := by
  have hall : ∀ rule ∈ all, Text.OneLine rule.code := by decide
  exact hall rule rule.mem_all

theorem Subject.oneLine_text {s : Subject} (h : Text.OneLine s.artifact) :
    Text.OneLine s.text := by
  rw [Subject.text]
  split
  · exact Text.oneLine_append.2 ⟨Text.oneLine_append.2 ⟨h, by decide⟩, Text.oneLine_repr _⟩
  · exact h

end DeployLint
