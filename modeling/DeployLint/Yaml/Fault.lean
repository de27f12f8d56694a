import DeployLint.Text.Quoted

/-!
# YAML — faults

What can be wrong with a YAML text, and where. A fault of form is a problem
at a mark, and often also what was under way and since which mark. A fault
of content lies in a node that is well formed: its mark is the node's, and
its path leads there.
-/

namespace DeployLint

namespace Yaml

/-- A place in a text: characters before it, lines before it, characters
before it on its line. -/
structure Mark where
  index : Nat
  line : Nat
  column : Nat
deriving DecidableEq, Repr

namespace Mark

def start : Mark := ⟨0, 0, 0⟩

/-- The first character of the text is its origin; messages leave it out. -/
def isOrigin (m : Mark) : Bool := m.line == 0 && m.column == 0

def text (m : Mark) : String := s!"line {m.line + 1} column {m.column + 1}"

/-- The mark as the end of a message, unless it is the origin. -/
def ending (m : Mark) : String := if m.isOrigin then "" else " at " ++ m.text

end Mark

/-! ## Faults of form -/

/-- A problem of form. -/
inductive Problem where
  | mappingValue
  | mappingKey
  | blockEntry
  | missingColon
  | noToken
  | unknownDirective
  | noDirectiveName
  | oddDirectiveName
  | versionPoint
  | versionTooLong
  | versionMissing
  | lineEnd
  | whitespace
  | whitespaceOrBreak
  | anchorName
  | tagMark
  | tagClose
  | tagUri
  | uriEscape
  | uriLeadingOctet
  | uriTrailingOctet
  | zeroIndentation
  | tabIndentation
  | tabInPlain
  | documentIndicator
  | endOfStream
  | unknownEscape
  | hexNumber
  | codePoint
  | unexpectedColon
  | documentStart
  | undefinedHandle
  | duplicateHandle
  | duplicateVersion
  | incompatibleVersion
  | nodeContent
  | dash
  | key
  | commaOrBracket
  | commaOrBrace
deriving DecidableEq, Repr

def Problem.message : Problem → String
  | mappingValue => "mapping values are not allowed in this context"
  | mappingKey => "mapping keys are not allowed in this context"
  | blockEntry => "block sequence entries are not allowed in this context"
  | missingColon => "could not find expected ':'"
  | noToken => "found character that cannot start any token"
  | unknownDirective => "found unknown directive name"
  | noDirectiveName => "could not find expected directive name"
  | oddDirectiveName => "found unexpected non-alphabetical character"
  | versionPoint => "did not find expected digit or '.' character"
  | versionTooLong => "found extremely long version number"
  | versionMissing => "did not find expected version number"
  | lineEnd => "did not find expected comment or line break"
  | whitespace => "did not find expected whitespace"
  | whitespaceOrBreak => "did not find expected whitespace or line break"
  | anchorName => "did not find expected alphabetic or numeric character"
  | tagMark => "did not find expected '!'"
  | tagClose => "did not find the expected '>'"
  | tagUri => "did not find expected tag URI"
  | uriEscape => "did not find URI escaped octet"
  | uriLeadingOctet => "found an incorrect leading UTF-8 octet"
  | uriTrailingOctet => "found an incorrect trailing UTF-8 octet"
  | zeroIndentation => "found an indentation indicator equal to 0"
  | tabIndentation => "found a tab character where an indentation space is expected"
  | tabInPlain => "found a tab character that violates indentation"
  | documentIndicator => "found unexpected document indicator"
  | endOfStream => "found unexpected end of stream"
  | unknownEscape => "found unknown escape character"
  | hexNumber => "did not find expected hexadecimal number"
  | codePoint => "found invalid Unicode character escape code"
  | unexpectedColon => "found unexpected ':'"
  | documentStart => "did not find expected <document start>"
  | undefinedHandle => "found undefined tag handle"
  | duplicateHandle => "found duplicate %TAG directive"
  | duplicateVersion => "found duplicate %YAML directive"
  | incompatibleVersion => "found incompatible YAML document"
  | nodeContent => "did not find expected node content"
  | dash => "did not find expected '-' indicator"
  | key => "did not find expected key"
  | commaOrBracket => "did not find expected ',' or ']'"
  | commaOrBrace => "did not find expected ',' or '\x7d'"

/-- What was under way when a problem was met. -/
inductive Activity where
  | nextToken
  | simpleKey
  | directive
  | versionDirective
  | tagDirective
  | tagDirectiveHandle
  | tagDirectivePart
  | tagDirectiveUri
  | anchor
  | reference
  | tag
  | tagText
  | blockScalar
  | quotedScalar
  | quotedEscape
  | plainScalar
  | node
  | blockNode
  | flowNode
  | blockCollection
  | blockMapping
  | flowSequence
  | flowMapping
deriving DecidableEq, Repr

def Activity.message : Activity → String
  | nextToken => "while scanning for the next token"
  | simpleKey => "while scanning a simple key"
  | directive => "while scanning a directive"
  | versionDirective => "while scanning a %YAML directive"
  | tagDirective => "while scanning a %TAG directive"
  | tagDirectiveHandle => "while scanning a tag directive"
  | tagDirectivePart => "while parsing a tag directive"
  | tagDirectiveUri => "while parsing a %TAG directive"
  | anchor => "while scanning an anchor"
  | reference => "while scanning an alias"
  | tag => "while scanning a tag"
  | tagText => "while parsing a tag"
  | blockScalar => "while scanning a block scalar"
  | quotedScalar => "while scanning a quoted scalar"
  | quotedEscape => "while parsing a quoted scalar"
  | plainScalar => "while scanning a plain scalar"
  | node => "while parsing a node"
  | blockNode => "while parsing a block node"
  | flowNode => "while parsing a flow node"
  | blockCollection => "while parsing a block collection"
  | blockMapping => "while parsing a block mapping"
  | flowSequence => "while parsing a flow sequence"
  | flowMapping => "while parsing a flow mapping"

/-- What was under way, and since where. -/
structure Context where
  activity : Activity
  since : Mark
deriving DecidableEq, Repr

/-- The end of a message that tells what was under way, unless the place of
the problem already tells since where. -/
def Context.ending (c : Context) (place : Mark) : String :=
  let same := c.since.line == place.line && c.since.column == place.column
  ", " ++ c.activity.message ++ (if same then "" else c.since.ending)

/-! ## Faults of content -/

/-- What a tag demands of the text of a scalar. -/
inductive Expected where
  | boolean
  | integer
  | float
  | null
deriving DecidableEq, Repr

def Expected.text : Expected → String
  | boolean => "a boolean"
  | integer => "an integer"
  | float => "a float"
  | null => "null"

/-- A key that a mapping holds twice, as far as messages tell. -/
inductive RepeatedKey where
  | null
  | bool (value : Bool)
  | number (text : String)
  | string (value : String)
  | collection
deriving DecidableEq, Repr

/-- A fault of content. -/
inductive ContentFault where
  | repeatedKey (key : RepeatedKey)
  /-- An integer that needs more than sixty-four bits. -/
  | wideInteger (value : Int)
  | mismatch (text : String) (expected : Expected)
deriving DecidableEq, Repr

def ContentFault.message : ContentFault → String
  | repeatedKey .null => "duplicate entry with null key"
  | repeatedKey (.bool true) => "duplicate entry with key \x60true\x60"
  | repeatedKey (.bool false) => "duplicate entry with key \x60false\x60"
  | repeatedKey (.number text) => "duplicate entry with key " ++ text
  | repeatedKey (.string value) => "duplicate entry with key " ++ Text.quoted value
  | repeatedKey .collection => "duplicate entry in YAML map"
  | wideInteger value =>
    "invalid type: integer \x60" ++ toString value ++ "\x60 as " ++
      (if value < 0 then "i128" else "u128") ++ ", expected any YAML value"
  | mismatch text expected =>
    "invalid value: string " ++ Text.quoted text ++ ", expected " ++ expected.text

/-! ## Faults -/

/-- What is wrong with a YAML text. -/
inductive Fault where
  | form (problem : Problem) (place : Mark) (context : Option Context)
  /-- A character that no YAML text may hold, so many bytes into the text. -/
  | controlCharacter (offset : Nat)
  | content (cause : ContentFault) (place : Mark) (path : String)
  | unknownAnchor (place : Mark)
  | tooDeep (place : Mark)
  | tooManyRepetitions
  | severalDocuments
deriving DecidableEq, Repr

namespace Fault

/-- Where a fault is reported, if anywhere. -/
def place? : Fault → Option Mark
  | form _ place _ => some place
  | controlCharacter _ => some .start
  | content _ place _ => some place
  | unknownAnchor place => some place
  | tooDeep place => some place
  | tooManyRepetitions => none
  | severalDocuments => none

/-- The wording of a fault. -/
def message : Fault → String
  | form problem place context =>
    problem.message ++ place.ending ++ (context.map (·.ending place)).getD ""
  | controlCharacter offset =>
    "control characters are not allowed" ++
      (if offset == 0 then "" else " at position " ++ toString offset)
  | content cause place path =>
    (if path == "." then "" else path ++ ": ") ++ cause.message ++ place.ending
  | unknownAnchor place => "unknown anchor" ++ place.ending
  | tooDeep place => "recursion limit exceeded" ++ place.ending
  | tooManyRepetitions => "repetition limit exceeded"
  | severalDocuments =>
    "deserializing from YAML containing more than one document is not supported"

end Fault

end Yaml

end DeployLint
