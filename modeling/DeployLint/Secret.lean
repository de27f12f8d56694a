import DeployLint.Config.Basic
import DeployLint.Finding
import DeployLint.Notice
import DeployLint.Text.Blank
import DeployLint.Text.Occurrence

/-!
# Secrets in texts

A raw text is searched line by line for words that go with secrets. A line
that marks its value as one that stands elsewhere is left out. Letters of
ASCII match in either case, and empty entries of a table match nothing.
-/

namespace DeployLint

namespace Secret

/-- The entries of a table that are looked for: all but the empty ones. -/
def entries (table : List String) : List String := table.filter fun entry => !entry.isEmpty

/-- The two searches that a configuration's tables ask for. -/
structure Scanner (tables : SecurityTables) where
  patternSearch : Text.Search (entries tables.secretPatterns)
  markerSearch : Text.Search (entries tables.referenceMarkers)

namespace Scanner

variable {tables : SecurityTables}

/-- The scanner of the tables. -/
def ofTables (tables : SecurityTables) : Scanner tables where
  patternSearch := .placeByPlace _
  markerSearch := .placeByPlace _

/-- The patterns that a line holds, as the table spells them. A line that
refers to a value elsewhere counts as one that holds none. -/
def patternsOn (s : Scanner tables) (line : String) : List String :=
  if s.markerSearch.finds line then []
  else (s.patternSearch.entriesIn line).map fun i => (entries tables.secretPatterns)[i]

/-- The findings on the line at a place. Their messages count lines without a bound. -/
def checkLine (s : Scanner tables) (subject : Subject) (i : Nat) (line : String) : List Finding :=
  (s.patternsOn line).map fun pattern =>
    (Finding.graded .potentialSecret .warning subject
      s!"Potential hardcoded {pattern} on line {i + 1}: {Text.trim line}").onLine
      (Text.lineNumber i)

/-- The findings on a text. -/
def scan (s : Scanner tables) (text : String) (subject : Subject) : List Finding :=
  (Text.lines text).zipIdx.flatMap fun (line, i) => s.checkLine subject i line

end Scanner

/-- The findings on a text that the tables lead to. -/
def scan (tables : SecurityTables) (text : String) (subject : Subject) : List Finding :=
  (Scanner.ofTables tables).scan text subject

/-- What setting up a search tells: that an entry is empty. -/
def tableNotices (tables : SecurityTables) : List Notice :=
  ((tables.secretPatterns ++ tables.referenceMarkers).filter String.isEmpty).map fun _ =>
    .warn "Ignoring empty entry in security pattern table"

end Secret

end DeployLint
