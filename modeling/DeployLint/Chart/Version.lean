import DeployLint.Finding
import DeployLint.Text.Search

/-!
# Charts — versions

A version is made of parts between dots, at least two of them. A part begins
with digits, and what may follow them begins with a hyphen.
-/

namespace DeployLint

namespace Chart

/-- Whether a text is a run of ASCII digits. -/
def isNumeric (cs : List Char) : Bool := !cs.isEmpty && cs.all Char.isDigit

/-- Whether a text is a part of a version: digits up to its first hyphen. -/
def isVersionPart (part : String) : Bool := isNumeric (part.toList.takeWhile (· != '-'))

/-- The findings on a version. -/
def checkVersion (version : String) (subject : Subject) : List Finding :=
  let finding (rule : Rule) (message : String) : Finding :=
    (Finding.graded rule .error subject message).atPath (.ofKeys ["version"])
  if version.isEmpty then [finding .emptyVersion "Version is empty"]
  else
    let parts := Text.fields '.' version
    (if parts.length < 2 then
        [finding .versionTooShort s!"Version should have at least major.minor: {version}"]
      else []) ++
      (parts.filter fun part => !isVersionPart part).map fun part =>
        finding .invalidVersionPart s!"Invalid version part: {part}"

end Chart

end DeployLint
