import DeployLint.Json.Basic
import DeployLint.Text.Digits

/-!
# JSON — reading

A strict reader of one JSON value. It stops at the first fault, whose place
is known by what was still unread, and it refuses containers nested deeper
than a limit.

Whole numbers that fit sixty-four bits, with a sign or without, are
integers. All other numbers are doubles, computed from the leading digits
that fit sixty-four bits and one power of ten: two roundings, not always the
nearest double.
-/

namespace DeployLint

namespace Json

/-! ## Faults -/

/-- What is wrong with a JSON text. -/
inductive Cause where
  | endInValue
  | endInList
  | endInObject
  | endInString
  | expectedValue
  | expectedIdent
  | expectedColon
  | expectedListEnd
  | expectedObjectEnd
  | trailingComma
  | trailingCharacters
  | keyNotString
  | invalidEscape
  | unfinishedPair
  | loneSurrogate
  | controlCharacter
  | invalidNumber
  | numberOutOfRange
  | tooDeep
deriving DecidableEq, Repr

/-- The wording of a cause. -/
def Cause.message : Cause → String
  | endInValue => "EOF while parsing a value"
  | endInList => "EOF while parsing a list"
  | endInObject => "EOF while parsing an object"
  | endInString => "EOF while parsing a string"
  | expectedValue => "expected value"
  | expectedIdent => "expected ident"
  | expectedColon => "expected \x60:\x60"
  | expectedListEnd => "expected \x60,\x60 or \x60]\x60"
  | expectedObjectEnd => "expected \x60,\x60 or \x60\x7d\x60"
  | trailingComma => "trailing comma"
  | trailingCharacters => "trailing characters"
  | keyNotString => "key must be a string"
  | invalidEscape => "invalid escape"
  | unfinishedPair => "unexpected end of hex escape"
  | loneSurrogate => "lone leading surrogate in hex escape"
  | controlCharacter => "control character (\\u0000-\\u001F) found while parsing a string"
  | invalidNumber => "invalid number"
  | numberOutOfRange => "number out of range"
  | tooDeep => "recursion limit exceeded"

/-- A fault where it was met: what was unread, and how many bytes of that
belong to the fault. -/
structure Stop where
  cause : Cause
  unread : List Char
  bytes : Nat

/-- A fault behind what was read so far. -/
def stop {α : Type} (cause : Cause) (unread : List Char) : Except Stop α :=
  .error ⟨cause, unread, 0⟩

/-- A fault that the next byte belongs to, if there is one. -/
def stopAtNext {α : Type} (cause : Cause) (unread : List Char) : Except Stop α :=
  .error ⟨cause, unread, if unread.isEmpty then 0 else 1⟩

/-- A fault with the place where the text shows it. -/
structure Fault where
  cause : Cause
  line : Nat
  column : Nat
deriving DecidableEq, Repr

/-- The number of bytes of a text. -/
def byteCount (cs : List Char) : Nat := cs.foldr (fun c bytes => c.utf8Size + bytes) 0

/-- The line and column that so many bytes end in; both the text and the
place to start from are given. Columns count the bytes of a line. -/
def placeAfter : List Char → Nat → Nat → Nat → Nat × Nat
  | [], _, line, column => (line, column)
  | c :: cs, bytes, line, column =>
    if bytes < c.utf8Size then (line, column + bytes)
    else if c = '\n' then placeAfter cs (bytes - 1) (line + 1) 0
    else placeAfter cs (bytes - c.utf8Size) line (column + c.utf8Size)

/-- A fault of a text, placed in it. -/
def Stop.place (text : List Char) (s : Stop) : Fault :=
  let bytes := byteCount text - byteCount s.unread + s.bytes
  let (line, column) := placeAfter text bytes 1 0
  ⟨s.cause, line, column⟩

/-- The wording of a fault. -/
def Fault.message (f : Fault) : String :=
  s!"{f.cause.message} at line {f.line} column {f.column}"

/-! ## Blanks and words -/

/-- The four characters that may stand between tokens. -/
def isSpace (c : Char) : Bool := c = ' ' || c = '\n' || c = '\t' || c = '\r'

def skipSpaces (cs : List Char) : List Char := cs.dropWhile isSpace

/-- Reads the rest of one of the three words. -/
def word (value : Json) : List Char → List Char → Except Stop (Json × List Char)
  | [], cs => .ok (value, cs)
  | _ :: _, [] => stop .endInValue []
  | e :: es, c :: cs => if e = c then word value es cs else stopAtNext .expectedIdent (c :: cs)

/-! ## Strings -/

/-- Reads four hexadecimal digits. Four bytes are taken before any is looked at. -/
def hexEscape (cs : List Char) : Except Stop (Nat × List Char) :=
  if byteCount cs < 4 then stop .endInString []
  else
    match Text.hexNumber? (cs.take 4) with
    | some n => .ok (n, cs.drop 4)
    | none => .error ⟨.invalidEscape, cs, 4⟩

/-- Reads the second half of a pair of escapes that write one character
above the basic plane. -/
def pairEscape (high : Nat) (cs : List Char) : Except Stop (Char × List Char) :=
  match cs with
  | [] => stop .endInString []
  | '\\' :: [] => stop .endInString []
  | '\\' :: 'u' :: rest =>
    match hexEscape rest with
    | .error s => .error s
    | .ok (low, rest) =>
      if low < 0xDC00 || 0xDFFF < low then stop .loneSurrogate rest
      else .ok (Char.ofNat ((high - 0xD800) * 0x400 + (low - 0xDC00) + 0x10000), rest)
  | '\\' :: rest => stopAtNext .unfinishedPair rest
  | cs => stopAtNext .unfinishedPair cs

/-- Reads an escape by code point. -/
def unicodeEscape (cs : List Char) : Except Stop (Char × List Char) :=
  match hexEscape cs with
  | .error s => .error s
  | .ok (n, rest) =>
    if 0xDC00 ≤ n && n ≤ 0xDFFF then stop .loneSurrogate rest
    else if 0xD800 ≤ n && n ≤ 0xDBFF then pairEscape n rest
    else .ok (Char.ofNat n, rest)

/-- Reads what follows a backslash. -/
def escape : List Char → Except Stop (Char × List Char)
  | [] => stop .endInString []
  | '"' :: cs => .ok ('"', cs)
  | '\\' :: cs => .ok ('\\', cs)
  | '/' :: cs => .ok ('/', cs)
  | 'b' :: cs => .ok ('\x08', cs)
  | 'f' :: cs => .ok ('\x0c', cs)
  | 'n' :: cs => .ok ('\n', cs)
  | 'r' :: cs => .ok ('\r', cs)
  | 't' :: cs => .ok ('\t', cs)
  | 'u' :: cs => unicodeEscape cs
  | cs => stopAtNext .invalidEscape cs

/-- Reads a string behind its opening quote, in at most so many characters. -/
def stringBody : Nat → List Char → Except Stop (List Char × List Char)
  | 0, cs => stop .endInString cs
  | _ + 1, [] => stop .endInString []
  | fuel + 1, c :: cs =>
    if c = '"' then .ok ([], cs)
    else if c = '\\' then
      match escape cs with
      | .error s => .error s
      | .ok (e, rest) => (stringBody fuel rest).map fun (s, rest) => (e :: s, rest)
    else if c.toNat < 0x20 then stopAtNext .controlCharacter (c :: cs)
    else (stringBody fuel cs).map fun (s, rest) => (c :: s, rest)

/-- Reads a string behind its opening quote. -/
def stringTail (cs : List Char) : Except Stop (String × List Char) :=
  (stringBody (cs.length + 1) cs).map fun (s, rest) => (String.ofList s, rest)

/-! ## Numbers -/

def digitValue (c : Char) : Nat := c.toNat - '0'.toNat

/-- Extends a significand by digits while it fits sixty-four bits: the
significand, how many digits were taken, and what was not. -/
def takeDigits (significand taken : Nat) : List Char → Nat × Nat × List Char
  | [] => (significand, taken, [])
  | c :: cs =>
    if c.isDigit && 10 * significand + digitValue c < 0x10000000000000000 then
      takeDigits (10 * significand + digitValue c) (taken + 1) cs
    else (significand, taken, c :: cs)

/-- A significand times a power of ten, divided down in steps where the
power is too small for a double; `none` where the result is too large. -/
def scaled? : Nat → Float → Int → Option Float
  | 0, f, _ => some f
  | fuel + 1, f, e =>
    if e.natAbs ≤ 308 then
      let power := Float.ofScientific 1 false e.natAbs
      if 0 ≤ e then
        let product := f * power
        if product.isInf then none else some product
      else some (f / power)
    else if f == 0.0 then some f
    else if 0 ≤ e then none
    else scaled? fuel (f / Float.ofScientific 1 false 308) (e + 308)

/-- The double of a sign, a significand and an exponent. -/
def floatNumber (negative : Bool) (significand : Nat) (e : Int) (rest : List Char) :
    Except Stop (Json × List Char) :=
  match scaled? 4 (Float.ofNat significand) e with
  | some f => .ok (.float (if negative then -f else f), rest)
  | none => stop .numberOutOfRange rest

/-- Reads the digits of an exponent after the first one; `none` in place of
the exponent where it no longer fits thirty-two bits, with what follows the
digit that was too much. -/
def exponentDigits (e : Nat) : List Char → Option Nat × List Char
  | [] => (some e, [])
  | c :: cs =>
    if c.isDigit then
      if 10 * e + digitValue c < 0x80000000 then exponentDigits (10 * e + digitValue c) cs
      else (none, cs)
    else (some e, c :: cs)

/-- Reads an exponent behind its mark. -/
def exponentNumber (negative : Bool) (significand : Nat) (start : Int) (cs : List Char) :
    Except Stop (Json × List Char) :=
  let (down, cs) :=
    match cs with
    | '+' :: cs => (false, cs)
    | '-' :: cs => (true, cs)
    | cs => (false, cs)
  match cs with
  | [] => stop .endInValue []
  | c :: rest =>
    if !c.isDigit then stopAtNext .invalidNumber (c :: rest)
    else
      match exponentDigits (digitValue c) rest with
      | (some e, rest) =>
        let power : Int := if down then -e else e
        floatNumber negative significand (start + power) rest
      | (none, rest) =>
        if significand != 0 && !down then stop .numberOutOfRange rest
        else .ok (.float (if negative then -0.0 else 0.0), rest.dropWhile Char.isDigit)

/-- Reads what may follow the digits of a double. -/
def afterDigits (negative : Bool) (significand : Nat) (e : Int) (cs : List Char) :
    Except Stop (Json × List Char) :=
  match cs with
  | 'e' :: rest => exponentNumber negative significand e rest
  | 'E' :: rest => exponentNumber negative significand e rest
  | cs => floatNumber negative significand e cs

/-- Reads the digits behind a point. -/
def fractionNumber (negative : Bool) (significand : Nat) (e : Int) (cs : List Char) :
    Except Stop (Json × List Char) :=
  let (significand, taken, rest) := takeDigits significand 0 cs
  if rest.head?.any Char.isDigit then
    afterDigits negative significand (e - (taken : Int)) (rest.dropWhile Char.isDigit)
  else if taken == 0 then
    stopAtNext (if rest.isEmpty then .endInValue else .invalidNumber) rest
  else afterDigits negative significand (e - (taken : Int)) rest

/-- A whole number, as an integer if it fits one. There is no integer `-0`. -/
def wholeNumber (negative : Bool) (n : Nat) : Json :=
  if !negative then .int n
  else if n == 0 || 0x8000000000000000 < n then .float (-(Float.ofNat n))
  else .int (-(n : Int))

/-- Reads a number behind its sign. -/
def number (negative : Bool) (cs : List Char) : Except Stop (Json × List Char) :=
  match cs with
  | [] => stop .endInValue []
  | c :: rest =>
    if !c.isDigit then stopAtNext .invalidNumber (c :: rest)
    else if c = '0' && rest.head?.any Char.isDigit then stopAtNext .invalidNumber rest
    else
      let (significand, _, rest) := takeDigits 0 0 (c :: rest)
      let excess := (rest.takeWhile Char.isDigit).length
      match rest.dropWhile Char.isDigit with
      | '.' :: rest => fractionNumber negative significand excess rest
      | rest =>
        if excess == 0 && !rest.head?.any (fun c => c = 'e' || c = 'E') then
          .ok (wholeNumber negative significand, rest)
        else afterDigits negative significand excess rest

/-! ## Values -/

/-- The deepest nesting that is refused. -/
def depthLimit : Nat := 128

mutual

/-- Reads a value, with so many levels left and in so many steps. -/
def value : Nat → Nat → List Char → Except Stop (Json × List Char)
  | 0, _, cs => stop .endInValue cs
  | fuel + 1, levels, cs =>
    match skipSpaces cs with
    | [] => stopAtNext .endInValue []
    | 'n' :: rest => word .null ['u', 'l', 'l'] rest
    | 't' :: rest => word (.bool true) ['r', 'u', 'e'] rest
    | 'f' :: rest => word (.bool false) ['a', 'l', 's', 'e'] rest
    | '-' :: rest => number true rest
    | '"' :: rest => (stringTail rest).map fun (s, rest) => (.string s, rest)
    | '[' :: rest =>
      if levels ≤ 1 then stopAtNext .tooDeep ('[' :: rest)
      else (items fuel (levels - 1) true rest).map fun (js, rest) => (.array js, rest)
    | '\x7b' :: rest =>
      if levels ≤ 1 then stopAtNext .tooDeep ('\x7b' :: rest)
      else (members fuel (levels - 1) true rest).map fun (ms, rest) => (.object ms, rest)
    | c :: rest =>
      if c.isDigit then number false (c :: rest)
      else stopAtNext .expectedValue (c :: rest)

/-- Reads the items of a list up to its end. -/
def items : Nat → Nat → Bool → List Char → Except Stop (List Json × List Char)
  | 0, _, _, cs => stop .endInList cs
  | fuel + 1, levels, first, cs =>
    match skipSpaces cs with
    | [] => stopAtNext .endInList []
    | ']' :: rest => .ok ([], rest)
    | c :: rest =>
      let start : Except Stop (List Char) :=
        if first then .ok (c :: rest)
        else if c = ',' then
          match skipSpaces rest with
          | [] => stopAtNext .endInValue []
          | ']' :: rest => stopAtNext .trailingComma (']' :: rest)
          | rest => .ok rest
        else stopAtNext .expectedListEnd (c :: rest)
      match start with
      | .error s => .error s
      | .ok cs =>
        match value fuel levels cs with
        | .error s => .error s
        | .ok (j, rest) => (items fuel levels false rest).map fun (js, rest) => (j :: js, rest)

/-- Reads the members of an object up to its end. -/
def members : Nat → Nat → Bool → List Char → Except Stop (List (String × Json) × List Char)
  | 0, _, _, cs => stop .endInObject cs
  | fuel + 1, levels, first, cs =>
    match skipSpaces cs with
    | [] => stopAtNext .endInObject []
    | '\x7d' :: rest => .ok ([], rest)
    | c :: rest =>
      let start : Except Stop (List Char) :=
        if first then
          if c = '"' then .ok rest else stopAtNext .keyNotString (c :: rest)
        else if c = ',' then
          match skipSpaces rest with
          | [] => stopAtNext .endInValue []
          | '"' :: rest => .ok rest
          | '\x7d' :: rest => stopAtNext .trailingComma ('\x7d' :: rest)
          | rest => stopAtNext .keyNotString rest
        else stopAtNext .expectedObjectEnd (c :: rest)
      match start with
      | .error s => .error s
      | .ok cs =>
        match stringTail cs with
        | .error s => .error s
        | .ok (name, rest) =>
          match skipSpaces rest with
          | [] => stopAtNext .endInObject []
          | ':' :: rest =>
            match value fuel levels rest with
            | .error s => .error s
            | .ok (j, rest) =>
              (members fuel levels false rest).map fun (ms, rest) => ((name, j) :: ms, rest)
          | rest => stopAtNext .expectedColon rest

end

/-- Reads a text that is one JSON value. -/
def readChars (cs : List Char) : Except Stop Json :=
  match value (2 * cs.length + 2) depthLimit cs with
  | .error s => .error s
  | .ok (j, rest) =>
    match skipSpaces rest with
    | [] => .ok j
    | rest => stopAtNext .trailingCharacters rest

/-- Reads a text that is one JSON value. -/
def read (text : String) : Except Fault Json :=
  match readChars text.toList with
  | .ok j => .ok j
  | .error s => .error (s.place text.toList)

end Json

end DeployLint
