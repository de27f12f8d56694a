import DeployLint.Dockerfile.Image

/-!
# Build files — mistakes and good practices

Two passes over a build file. The first looks at single lines for mistakes:
a missing start, the root user, local files that are added, a cache that is
kept. The second looks at whole instructions for what a good build file has.
-/

namespace DeployLint

namespace Dockerfile

/-! ## Mistakes -/

/-- The findings on one line. -/
def checkLine (subject : Subject) (i : Instruction) : List Finding :=
  let upper := Text.upper i.text
  let lower := Text.lower i.text
  (if Text.beginsWith upper "USER ROOT" then
      [(Finding.graded .rootUser .error subject "Running as root user").onLine i.line]
    else []) ++
    (if Text.beginsWith upper "ADD " && !Text.holds lower "http" then
      [(Finding.graded .addLocalFiles .error subject
        "Use COPY instead of ADD for local files").onLine i.line]
    else []) ++
    if Text.holds lower "pip install" && !Text.holds lower "--no-cache-dir" then
      [(Finding.graded .pipCache .error subject
        "pip install should use --no-cache-dir").onLine i.line]
    else []

/-- The finding on the first line, if it does not name an image to start from. -/
def checkStart (subject : Subject) (first : Instruction) : List Finding :=
  if Text.beginsWith (Text.upper first.text) "FROM" then []
  else
    [(Finding.graded .missingFrom .error subject
      "First instruction should be FROM").onLine first.line]

/-- The findings on the lines of a build file. -/
def checkLines (text : String) (subject : Subject) : List Finding :=
  match physicalLines text with
  | [] => [Finding.graded .emptyDockerfile .error subject "Dockerfile is empty"]
  | first :: rest => checkStart subject first ++ (first :: rest).flatMap (checkLine subject)

/-! ## Good practices -/

/-- The labels that an image should carry. -/
def recommendedLabels : List String :=
  ["org.opencontainers.image.title", "org.opencontainers.image.description",
    "org.opencontainers.image.version", "org.opencontainers.image.source"]

/-- The finding on a keyword that no instruction has. -/
def checkPresence (is : List Instruction) (keyword : String) (finding : Finding) :
    List Finding :=
  if is.any (·.is keyword) then [] else [finding]

/-- The finding on an instruction that copies from an absolute path. What is
copied from another stage may have any path. -/
def checkCopy (subject : Subject) (i : Instruction) : List Finding :=
  if !(i.is "COPY" || i.is "ADD") || i.arguments.any (Text.beginsWith · "--from") then []
  else
    match firstOperand? i with
    | none => []
    | some source =>
      if Text.beginsWith source "/" then
        [(Finding.graded .absoluteCopySource .warning subject
          s!"Absolute path in {i.keyword} instruction: {source}").onLine i.line]
      else []

/-- The findings on labels: none at all, or each recommended one that no
label instruction names. -/
def checkLabels (subject : Subject) (is : List Instruction) : List Finding :=
  match is.filter (·.is "LABEL") with
  | [] =>
    [Finding.graded .missingLabels .warning subject "No LABEL instructions (metadata recommended)"]
  | labels =>
    (recommendedLabels.filter fun label => !labels.any (Text.holds ·.text label)).map fun label =>
      Finding.graded .missingOciLabel .info subject s!"Missing recommended label: {label}"

/-- The findings on the instructions of a build file; one without
instructions has none. -/
def checkPractices (text : String) (subject : Subject) : List Finding :=
  match instructions text with
  | [] => []
  | is =>
    checkPresence is "WORKDIR"
        (Finding.graded .missingWorkdir .warning subject "Dockerfile should set WORKDIR") ++
      checkPresence is "USER"
        (Finding.graded .missingUser .warning subject
          "Dockerfile doesn't set USER (run as a non-root user)") ++
      is.flatMap (checkCopy subject) ++
      (if (is.filter (·.is "FROM")).length == 1 then
        [Finding.graded .singleStage .info subject
          "Single-stage build (consider multi-stage for smaller images)"]
      else []) ++
      checkLabels subject is

end Dockerfile

end DeployLint
