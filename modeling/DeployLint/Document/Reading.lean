import DeployLint.Yaml.Document
import DeployLint.LintError
import DeployLint.Notice
import DeployLint.Text.Search

/-!
# Document — reading

The ways a text becomes documents: one YAML document, a stream of them, one
JSON document, or the contents of a file, whose name decides the format.
-/

namespace DeployLint

namespace Document

/-- Reads a text that is a single YAML document. -/
def parse (text : String) : Except LintError Document :=
  (Yaml.read text).mapError .ofYaml

/-- Reads all documents of a YAML stream. An empty one is null, so that
positions in the result are those of the text. -/
def parseStream (text : String) : Except LintError (List Document) :=
  (Yaml.readStream text).mapError .ofYaml

/-- Reads a text that is a single JSON document. -/
def parseJson (text : String) : Except LintError Document :=
  ((Json.read text).map Json.toDocument).mapError .ofJson

/-- What reading a stream tells. -/
def parseStreamNotices (text : String) : List Notice :=
  match parseStream text with
  | .ok docs => [.debug s!"Parsed {docs.length} document(s) from stream"]
  | .error _ => []

/-! ## Files -/

/-- What follows the last point of a file name. A name that begins with its
only point has no extension. -/
def extension? (name : String) : Option String :=
  let file := ((Text.fields '/' name).getLast?).getD ""
  match Text.cutLast? '.' file with
  | some (stem, ending) => if stem.isEmpty || file == ".." then none else some ending
  | none => none

/-- The text of a file, given by its bytes if it is there. -/
def fileText (content : Option ByteArray) : Except LintError String :=
  match content with
  | none => .error (.file .missing)
  | some bytes =>
    match String.fromUTF8? bytes with
    | some text => .ok text
    | none => .error (.file .notUtf8)

/-- Whether a file holds JSON, by its name. -/
def isJsonFile (name : String) : Bool := extension? name == some "json"

/-- Reads a file: one JSON document if its name says so, else a YAML stream. -/
def parseFile (name : String) (content : Option ByteArray) : Except LintError (List Document) := do
  let text ← fileText content
  if isJsonFile name then
    let d ← parseJson text
    pure [d]
  else parseStream text

/-- What reading a file tells. -/
def parseFileNotices (name : String) (content : Option ByteArray) : List Notice :=
  match fileText content with
  | .ok text => if isJsonFile name then [] else parseStreamNotices text
  | .error _ => []

end Document

end DeployLint
