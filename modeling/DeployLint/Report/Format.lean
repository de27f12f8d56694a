import DeployLint.Report.Basic
import DeployLint.Text.Uppercase

/-!
# Reports — as text and as JSON

A report is written for people, a line for each finding and a summary, or
for programs, as JSON over several lines. A third form, JSON on one line,
keeps the findings as they are.
-/

namespace DeployLint

/-- The two forms that a report is asked for in. -/
inductive ReportFormat where
  | text
  | json
deriving DecidableEq, Repr

namespace ReportFormat

/-- The form that a word names, in any case. -/
def parse? (s : String) : Option ReportFormat :=
  match Text.lower s with
  | "text" => some text
  | "default" => some text
  | "json" => some json
  | _ => none

end ReportFormat

namespace Totals

/-- Totals as JSON. -/
def toJson (t : Totals) : Json :=
  .object [("cpuCores", .float t.cpuCores), ("memoryMiB", .float t.memoryMiB)]

end Totals

namespace Subject

/-- A subject as JSON. -/
def toJson (s : Subject) : Json :=
  .object (("artifact", .string s.artifact) ::
    Json.optional "document" (fun n : Nat => .int n) s.document)

end Subject

namespace Finding

/-- A finding as it is: what is absent is left out. -/
def toJson (f : Finding) : Json :=
  .object
    ([("code", .string f.code), ("severity", .string f.severity.text),
        ("subject", f.subject.toJson)] ++
      Json.optional "path" .string f.path ++
      Json.optional "line" (fun n : UInt32 => .int n.toNat) f.line ++
      [("message", .string f.message)])

/-- A finding as a record that always has the same members: what is absent is null. -/
def toRecord (f : Finding) : Json :=
  .object
    [("code", .string f.code), ("severity", .string f.severity.text),
      ("category", Json.orNull (fun c : Category => .string c.title) f.category?),
      ("artifact", .string f.subject.artifact),
      ("document", Json.orNull (fun n : Nat => .int n) f.subject.document),
      ("path", Json.orNull .string f.path),
      ("line", Json.orNull (fun n : UInt32 => .int n.toNat) f.line),
      ("message", .string f.message)]

end Finding

namespace Report

/-- The numbers of findings, as members of an object. -/
def countMembers (r : Report) : List (String × Json) :=
  [("error_count", .int r.tally.errors), ("warning_count", .int r.tally.warnings),
    ("info_count", .int r.tally.infos)]

/-! ## Text -/

/-- The line on totals. -/
def totalsLine (t : Totals) : String :=
  "Total requests: " ++ Decimal.plain.write t.cpuCores ++ " CPU cores, " ++
    Decimal.plain.write t.memoryMiB ++ " MiB memory"

/-- The last line: the numbers of findings. -/
def summaryLine (r : Report) : String :=
  s!"{r.tally.errors} errors, {r.tally.warnings} warnings, {r.tally.infos} info"

/-- The lines of a report as text. -/
def textLines (r : Report) : List String :=
  r.findings.map Finding.text ++ (r.totals.map totalsLine).toList ++ [r.summaryLine]

/-- A report as text. -/
def text (r : Report) : String := "\n".intercalate r.textLines

/-! ## JSON -/

/-- A report as one JSON value, its findings as records. -/
def toRecord (r : Report) : Json :=
  .object
    (r.countMembers ++ Json.optional "totals" Totals.toJson r.totals ++
      [("findings", .array (r.findings.map Finding.toRecord))])

/-- A report as one JSON value, its findings as they are. -/
def toJson (r : Report) : Json :=
  .object
    (("findings", .array (r.findings.map Finding.toJson)) :: r.countMembers ++
      Json.optional "totals" Totals.toJson r.totals)

/-- A report in the form that is asked for. -/
def format (r : Report) : ReportFormat → String
  | .text => r.text
  | .json => r.toRecord.pretty

/-- A report as JSON on one line. -/
def serialize (r : Report) : String := r.toJson.compact

end Report

end DeployLint
