import DeployLint.Json.Reader
import DeployLint.Yaml.Fault

/-!
# Errors

Only input that cannot be read is an error: text that is no document, a file
that is missing or no text, a configuration that cannot be understood. What
a rule finds is never one.
-/

namespace DeployLint

/-- Why a file could not be read. -/
inductive FileFault where
  | missing
  | notUtf8
deriving DecidableEq, Repr

def FileFault.message : FileFault → String
  | missing => "No such file or directory (os error 2)"
  | notUtf8 => "stream did not contain valid UTF-8"

/-- Why input was refused before any rule was asked. -/
inductive LintError where
  /-- Text that is no document. Line and column count from one. -/
  | parse (message : String) (line column : Option Nat)
  | file (fault : FileFault)
  | config (message : String)
deriving DecidableEq, Repr

namespace LintError

/-- The error of a YAML text. -/
def ofYaml (f : Yaml.Fault) : LintError :=
  .parse f.message (f.place?.map (·.line + 1)) (f.place?.map (·.column + 1))

/-- The error of a JSON text. -/
def ofJson (f : Json.Fault) : LintError := .parse f.message (some f.line) (some f.column)

def message : LintError → String
  | parse message (some line) (some column) =>
    "parse error at " ++ toString line ++ ":" ++ toString column ++ ": " ++ message
  | parse message (some line) none =>
    "parse error at line " ++ toString line ++ ": " ++ message
  | parse message none _ => "parse error: " ++ message
  | file fault => "I/O error: " ++ fault.message
  | config message => "Invalid configuration: " ++ message

end LintError

end DeployLint
