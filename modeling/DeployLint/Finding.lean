import DeployLint.Rule
import DeployLint.Document.Path

/-!
# Findings

What a rule reports: its code and severity, the artifact it looked at and
the place inside, and a message. A finding is a plain value.
-/

namespace DeployLint

/-- What a finding is about: an artifact, or one document of it. -/
structure Subject where
  artifact : String
  /-- The position of the document within its stream. -/
  document : Option Nat := none
deriving DecidableEq, Repr

namespace Subject

def text (s : Subject) : String :=
  match s.document with
  | some position => s.artifact ++ "#" ++ toString position
  | none => s.artifact

instance : ToString Subject := ⟨text⟩

end Subject

/-- One result of a check. -/
structure Finding where
  code : String
  severity : Severity
  subject : Subject
  /-- The text of the path to the place, in a document. -/
  path : Option String := none
  /-- The line of the place, in a text; lines count from one. -/
  line : Option UInt32 := none
  message : String
deriving DecidableEq, Repr

namespace Finding

/-- A finding of a rule, as grave as the check that makes it says. -/
def graded (rule : Rule) (severity : Severity) (subject : Subject) (message : String) :
    Finding where
  code := rule.code
  severity := severity
  subject := subject
  message := message

/-- A finding of a rule, with the severity that the catalogue gives the rule. -/
def of (rule : Rule) (subject : Subject) (message : String) : Finding where
  code := rule.code
  severity := rule.severity
  subject := subject
  message := message

/-- A finding at a path. -/
def atPath (f : Finding) (path : Path) : Finding := { f with path := some path.text }

/-- A finding on a line. -/
def onLine (f : Finding) (line : UInt32) : Finding := { f with line := some line }

def category? (f : Finding) : Option Category := Category.ofCode? f.code

def isError (f : Finding) : Bool := f.severity == .error

/-- A finding on one line: where, how grave, which rule, what. -/
def text (f : Finding) : String :=
  f.subject.text ++ (f.path.map (":" ++ ·)).getD "" ++
    (f.line.map fun line => ":" ++ toString line).getD "" ++
    ": " ++ f.severity.text ++ " " ++ f.code ++ " " ++ f.message

end Finding

end DeployLint
