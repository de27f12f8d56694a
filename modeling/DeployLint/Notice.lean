/-!
# Notices — what the library tells beside its answers

A notice is a line for a log: it never changes an answer. Each function that
has something to tell has a companion that lists it, so that the answers
stay plain values.
-/

namespace DeployLint

/-- How much a notice matters. -/
inductive NoticeLevel where
  | warn
  | debug
deriving DecidableEq, Repr

/-- A line for a log. -/
structure Notice where
  level : NoticeLevel
  message : String
deriving DecidableEq, Repr

namespace Notice

def warn (message : String) : Notice := ⟨.warn, message⟩

def debug (message : String) : Notice := ⟨.debug, message⟩

def text (n : Notice) : String :=
  (match n.level with
    | .warn => "WARN "
    | .debug => "DEBUG ") ++ n.message

end Notice

end DeployLint
