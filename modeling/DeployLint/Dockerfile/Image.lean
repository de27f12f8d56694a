import DeployLint.Dockerfile.Instruction
import DeployLint.Finding

/-!
# Build files — images and their tags

The tag of an image is what follows the first colon behind the last slash of
its name. A digest after an `@` does not belong to it, and an image that is
named by a variable has no tag that could be looked at.
-/

namespace DeployLint

namespace Dockerfile

/-! ## References -/

/-- The tag of an image reference. -/
def tag? (image : String) : Option String :=
  if Text.holds image "$" then none
  else
    let reference := ((Text.cutFirst? '@' image).map (·.1)).getD image
    let name := ((Text.cutLast? '/' reference).map (·.2)).getD reference
    (Text.cutFirst? ':' name).map (·.2)

/-- The first argument of an instruction that is no option. -/
def firstOperand? (i : Instruction) : Option String :=
  i.arguments.find? fun argument => !Text.beginsWith argument "--"

/-- The tags of the images that a build file starts from, with their lines. -/
def imageTags (text : String) : List (UInt32 × String) :=
  (instructions text).filterMap fun i =>
    if i.is "FROM" then ((firstOperand? i).bind tag?).map fun tag => (i.line, tag) else none

/-! ## Tags -/

/-- The greatest length of a tag. -/
def maxTagLength : Nat := 128

/-- The characters that no tag holds, each with the text it is shown by. -/
def forbiddenInTag : List (Char × String) :=
  [('/', "/"), (':', ":"), (' ', " "), ('\t', "\\t"), ('\n', "\\n")]

/-- The findings on a tag; a forbidden character is reported once. -/
def checkTag (tag : String) (subject : Subject) : List Finding :=
  if tag.isEmpty then [Finding.graded .emptyTag .error subject "Image tag is empty"]
  else
    (if tag == "latest" then
        [Finding.graded .latestTag .warning subject
          "Using \"latest\" tag is not recommended for production"]
      else []) ++
      (if maxTagLength < tag.length then
        [Finding.graded .tagTooLong .error subject s!"Tag too long: {tag.length} > {maxTagLength}"]
      else []) ++
      (forbiddenInTag.filter fun (c, _) => tag.toList.contains c).map fun (_, shown) =>
        Finding.graded .tagInvalidCharacter .error subject
          s!"Tag contains invalid character: {shown}"

/-- The findings on the tags of a build file, each on the line of its instruction. -/
def checkTags (text : String) (subject : Subject) : List Finding :=
  (imageTags text).flatMap fun (line, tag) => (checkTag tag subject).map (·.onLine line)

end Dockerfile

end DeployLint
