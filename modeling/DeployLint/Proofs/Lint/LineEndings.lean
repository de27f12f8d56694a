import DeployLint.Lint
import DeployLint.Proofs.Text.Lines

/-!
# Linting — how lines end

Build files and the search for secrets read a text line by line, so it does
not matter to them whether its lines end with a line feed alone or with a
carriage return in front of it. Each pass takes the text apart anew: the lines
that count, the instructions, the tags of images and the secrets are shown to
be the same, and from them the whole report (`lint_crlf`).
-/

namespace DeployLint

open Text (crlf)

variable {text : String}

/-! ## Pass by pass -/

theorem Text.numberedLines_crlf (h : '\r' ∉ text.toList) :
    numberedLines (crlf text) = numberedLines text := by
  rw [numberedLines, numberedLines, lines_crlf h]

namespace Dockerfile

theorem physicalLines_crlf (h : '\r' ∉ text.toList) :
    physicalLines (crlf text) = physicalLines text := by
  rw [physicalLines, physicalLines, Text.numberedLines_crlf h]

theorem instructions_crlf (h : '\r' ∉ text.toList) :
    instructions (crlf text) = instructions text := by
  rw [instructions, instructions, Text.numberedLines_crlf h]

theorem checkLines_crlf (h : '\r' ∉ text.toList) (subject : Subject) :
    checkLines (crlf text) subject = checkLines text subject := by
  rw [checkLines, checkLines, physicalLines_crlf h]

theorem checkPractices_crlf (h : '\r' ∉ text.toList) (subject : Subject) :
    checkPractices (crlf text) subject = checkPractices text subject := by
  rw [checkPractices, checkPractices, instructions_crlf h]

theorem checkTags_crlf (h : '\r' ∉ text.toList) (subject : Subject) :
    checkTags (crlf text) subject = checkTags text subject := by
  rw [checkTags, checkTags, imageTags, imageTags, instructions_crlf h]

end Dockerfile

theorem Secret.Scanner.scan_crlf {tables : SecurityTables} (s : Scanner tables)
    (h : '\r' ∉ text.toList) (subject : Subject) :
    s.scan (crlf text) subject = s.scan text subject := by
  rw [scan, scan, Text.lines_crlf h]

/-! ## The result -/

namespace Lint

/-- **How lines end does not matter**: a build file with a carriage return
before every line feed has the same report as without, and a scan for secrets
finds the same, whatever the patterns are and however they are searched for. -/
theorem lint_crlf (h : '\r' ∉ text.toList) :
    (∀ artifact c, dockerfile (crlf text) artifact c = dockerfile text artifact c) ∧
    (∀ (tables : SecurityTables) (s : Secret.Scanner tables) (subject : Subject),
      s.scan (crlf text) subject = s.scan text subject) ∧
    (∀ tables subject, Secret.scan tables (crlf text) subject =
      Secret.scan tables text subject) := by
  have hscan : ∀ tables subject, Secret.scan tables (crlf text) subject =
      Secret.scan tables text subject := fun tables => (Secret.Scanner.ofTables tables).scan_crlf h
  refine ⟨fun artifact c => ?_, fun _ s => s.scan_crlf h, hscan⟩
  rw [dockerfile, dockerfile, Dockerfile.checkLines_crlf h, Dockerfile.checkPractices_crlf h,
    Dockerfile.checkTags_crlf h, hscan]

/-- A build file with a continued line, a tag at the end of a line and a
secret, and what is found in it line by line. -/
theorem lint_crlf_continued :
    '\r' ∉ "FROM a:latest\nRUN b \\\n  token=1\nCOPY /a b\n".toList ∧
    crlf "FROM a:latest\nRUN b \\\n  token=1\nCOPY /a b\n" =
      "FROM a:latest\r\nRUN b \\\r\n  token=1\r\nCOPY /a b\r\n" ∧
    ((dockerfile (crlf "FROM a:latest\nRUN b \\\n  token=1\nCOPY /a b\n") "Dockerfile" {}).findings.map
        fun f => (f.code, f.line)) =
      [("DF1006", none), ("DF1007", none), ("DF1008", some 4), ("DF1009", none), ("DF1010", none),
        ("DF2002", some 1), ("SC1001", some 3)] := by
  have h : '\r' ∉ "FROM a:latest\nRUN b \\\n  token=1\nCOPY /a b\n".toList := by decide
  refine ⟨h, by decide, ?_⟩
  rw [(lint_crlf h).1]
  decide +kernel

end Lint

end DeployLint
