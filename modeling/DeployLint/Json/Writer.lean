import DeployLint.Json.Basic

/-!
# JSON — writing

A value is written on one line without spaces, or over several lines with an
indentation of two spaces. `Document.text` shows a document: the bare text
of a scalar, one line of JSON for the rest.
-/

namespace DeployLint

namespace Json

/-! ## Leaves -/

/-- One of the sixteen hexadecimal digits, in lower case. -/
def hexDigit (n : Nat) : Char := Nat.digitChar n

/-- A character inside a JSON string: quotes, backslashes and controls are
escaped, all else stands for itself. -/
def escapeChar (c : Char) : List Char :=
  if c = '"' then ['\\', '"']
  else if c = '\\' then ['\\', '\\']
  else if c = '\x08' then ['\\', 'b']
  else if c = '\x0c' then ['\\', 'f']
  else if c = '\n' then ['\\', 'n']
  else if c = '\r' then ['\\', 'r']
  else if c = '\t' then ['\\', 't']
  else if c.toNat < 0x20 then
    ['\\', 'u', '0', '0', hexDigit (c.toNat / 16), hexDigit (c.toNat % 16)]
  else [c]

/-- A text as a JSON string. -/
def quoteChars (s : String) : List Char := '"' :: s.toList.flatMap escapeChar ++ ['"']

/-- A whole number. -/
def intChars (n : Int) : List Char :=
  (if n < 0 then ['-'] else []) ++ Nat.toDigits 10 n.natAbs

/-- A double. Infinities and what is no number have no form of their own. -/
def floatChars (x : Float) : List Char :=
  if x.isFinite then Decimal.json.chars x else ['n', 'u', 'l', 'l']

/-! ## One line -/

mutual

/-- A value on one line, without spaces. -/
def compactChars : Json → List Char
  | .null => ['n', 'u', 'l', 'l']
  | .bool true => ['t', 'r', 'u', 'e']
  | .bool false => ['f', 'a', 'l', 's', 'e']
  | .int n => intChars n
  | .float x => floatChars x
  | .string s => quoteChars s
  | .array [] => ['[', ']']
  | .array (item :: items) => '[' :: compactChars item ++ compactItems items ++ [']']
  | .object [] => ['\x7b', '\x7d']
  | .object ((name, value) :: members) =>
    '\x7b' :: quoteChars name ++ ':' :: compactChars value ++ compactMembers members ++ ['\x7d']

/-- The items after the first, each behind a comma. -/
def compactItems : List Json → List Char
  | [] => []
  | item :: items => ',' :: compactChars item ++ compactItems items

/-- The members after the first, each behind a comma. -/
def compactMembers : List (String × Json) → List Char
  | [] => []
  | (name, value) :: members =>
    ',' :: quoteChars name ++ ':' :: compactChars value ++ compactMembers members

end

/-- A value on one line, without spaces. -/
def compact (j : Json) : String := String.ofList j.compactChars

/-! ## Several lines -/

/-- A new line, indented to a level. -/
def newLine (level : Nat) : List Char := '\n' :: List.replicate (2 * level) ' '

mutual

/-- A value over several lines, inside so many containers. -/
def prettyChars (level : Nat) : Json → List Char
  | .null => ['n', 'u', 'l', 'l']
  | .bool true => ['t', 'r', 'u', 'e']
  | .bool false => ['f', 'a', 'l', 's', 'e']
  | .int n => intChars n
  | .float x => floatChars x
  | .string s => quoteChars s
  | .array [] => ['[', ']']
  | .array (item :: items) =>
    '[' :: newLine (level + 1) ++ prettyChars (level + 1) item ++
      prettyItems (level + 1) items ++ newLine level ++ [']']
  | .object [] => ['\x7b', '\x7d']
  | .object ((name, value) :: members) =>
    '\x7b' :: newLine (level + 1) ++ quoteChars name ++ ':' :: ' ' ::
      prettyChars (level + 1) value ++ prettyMembers (level + 1) members ++
      newLine level ++ ['\x7d']

/-- The items after the first, each on a line of its own. -/
def prettyItems (level : Nat) : List Json → List Char
  | [] => []
  | item :: items => ',' :: newLine level ++ prettyChars level item ++ prettyItems level items

/-- The members after the first, each on a line of its own. -/
def prettyMembers (level : Nat) : List (String × Json) → List Char
  | [] => []
  | (name, value) :: members =>
    ',' :: newLine level ++ quoteChars name ++ ':' :: ' ' :: prettyChars level value ++
      prettyMembers level members

end

/-- A value over several lines. -/
def pretty (j : Json) : String := String.ofList (j.prettyChars 0)

end Json

/-- A document as it is shown in messages: a scalar by its bare text, the rest in JSON. -/
def Document.text : Document → String
  | .scalar value => value.text
  | d => (Json.ofDocument d).compact

end DeployLint
