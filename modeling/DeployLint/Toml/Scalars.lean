import DeployLint.Toml.Value
import DeployLint.Decimal.Literal
import DeployLint.Text.Digits
import DeployLint.Text.Search

/-!
# TOML — strings, numbers and moments

The leaves of a TOML text. Strings come in four forms; numbers may hold
underscores between digits; dates and times must exist in the calendar.
-/

namespace DeployLint

namespace Toml

/-- The characters that strings and comments may hold, line breaks apart. -/
def isText (c : Char) : Bool := c = '\t' || (0x20 ≤ c.toNat && c.toNat != 0x7F)

/-- What follows a line break, if one comes first. -/
def newline? : List Char → Option (List Char)
  | '\n' :: cs => some cs
  | '\r' :: '\n' :: cs => some cs
  | _ => none

def isBlank (c : Char) : Bool := c = ' ' || c = '\t'

def skipBlanks (cs : List Char) : List Char := cs.dropWhile isBlank

/-! ## Strings -/

/-- Reads a code point of so many digits. -/
def codePoint (count : Nat) (cs : List Char) : Except Fault (Char × List Char) :=
  let digits := cs.take count
  match Text.hexNumber? digits with
  | some n =>
    if digits.length = count && n.isValidChar then .ok (Char.ofNat n, cs.drop count)
    else .error .malformed
  | none => .error .malformed

/-- Reads an escape behind its backslash. -/
def escape : List Char → Except Fault (Char × List Char)
  | 'b' :: cs => .ok ('\x08', cs)
  | 't' :: cs => .ok ('\t', cs)
  | 'n' :: cs => .ok ('\n', cs)
  | 'f' :: cs => .ok ('\x0c', cs)
  | 'r' :: cs => .ok ('\r', cs)
  | 'e' :: cs => .ok ('\x1b', cs)
  | '"' :: cs => .ok ('"', cs)
  | '\\' :: cs => .ok ('\\', cs)
  | 'x' :: cs => codePoint 2 cs
  | 'u' :: cs => codePoint 4 cs
  | 'U' :: cs => codePoint 8 cs
  | _ => .error .malformed

/-- Reads a string on one line, up to its closing quote. `raw` knows no escapes. -/
def lineString (raw : Bool) : Nat → List Char → Except Fault (List Char × List Char)
  | 0, _ => .error .malformed
  | _ + 1, [] => .error .malformed
  | fuel + 1, c :: cs =>
    if c = (if raw then '\'' else '"') then .ok ([], cs)
    else if !raw && c = '\\' then do
      let (x, cs) ← escape cs
      let (xs, cs) ← lineString raw fuel cs
      pure (x :: xs, cs)
    else if isText c then do
      let (xs, cs) ← lineString raw fuel cs
      pure (c :: xs, cs)
    else .error .malformed

/-- What follows a backslash at the end of a line: everything up to the next
character that is no blank. `none` if the line does not end there. -/
def joinedLines? (cs : List Char) : Option (List Char) :=
  (newline? (skipBlanks cs)).map fun rest =>
    rest.dropWhile fun c => isBlank c || c = '\n' || c = '\r'

/-- Reads a string over several lines, up to its three closing quotes. One or
two more quotes before those belong to the string. -/
def blockString (raw : Bool) : Nat → List Char → Except Fault (List Char × List Char)
  | 0, _ => .error .malformed
  | _ + 1, [] => .error .malformed
  | fuel + 1, c :: cs =>
    let quote := if raw then '\'' else '"'
    let quotes := ((c :: cs).takeWhile (· = quote)).length
    if 3 ≤ quotes then
      let extra := min (quotes - 3) 2
      .ok (List.replicate extra quote, (c :: cs).drop (extra + 3))
    else if !raw && c = '\\' then
      match joinedLines? cs with
      | some cs => blockString raw fuel cs
      | none => do
        let (x, cs) ← escape cs
        let (xs, cs) ← blockString raw fuel cs
        pure (x :: xs, cs)
    else
      match newline? (c :: cs) with
      | some cs => do
        let (xs, cs) ← blockString raw fuel cs
        pure ('\n' :: xs, cs)
      | none =>
        if isText c then do
          let (xs, cs) ← blockString raw fuel cs
          pure (c :: xs, cs)
        else .error .malformed

/-- Reads a string on one line that begins at its quote, if one does. -/
def lineString? (cs : List Char) : Option (Except Fault (String × List Char)) :=
  let read (raw : Bool) (rest : List Char) : Except Fault (String × List Char) :=
    (lineString raw (rest.length + 1) rest).map fun (s, cs) => (String.ofList s, cs)
  match cs with
  | '"' :: rest => some (read false rest)
  | '\'' :: rest => some (read true rest)
  | _ => none

/-- Reads a string of any form that begins at its quote, if one does. A line
break right behind three opening quotes is no part of the string. -/
def anyString? (cs : List Char) : Option (Except Fault (String × List Char)) :=
  let read (raw : Bool) (rest : List Char) : Except Fault (String × List Char) :=
    let rest := (newline? rest).getD rest
    (blockString raw (rest.length + 1) rest).map fun (s, cs) => (String.ofList s, cs)
  match cs with
  | '"' :: '"' :: '"' :: rest => some (read false rest)
  | '\'' :: '\'' :: '\'' :: rest => some (read true rest)
  | cs => lineString? cs

/-! ## Numbers -/

/-- The digits of a base, when underscores only stand between two of them. -/
def plainDigits? (base : Nat) (cs : List Char) : Option (List Char) :=
  let isDigit (c : Char) : Bool := (Text.hexValue? c).any (· < base)
  let groups := Text.fieldChars '_' cs
  if groups.all fun g => !g.isEmpty && g.all isDigit then some groups.flatten else none

def digitsToNat (base : Nat) (cs : List Char) : Nat :=
  cs.foldl (fun n c => base * n + (Text.hexValue? c).getD 0) 0

/-- The decimal digits of a number that has no leading zero. -/
def wholeDigits? (cs : List Char) : Option (List Char) :=
  match plainDigits? 10 cs with
  | some ds => if 1 < ds.length && ds.head? == some '0' then none else some ds
  | none => none

/-- A sign and what follows it. -/
def signed (cs : List Char) : Option Char × List Char :=
  match cs with
  | '+' :: rest => (some '+', rest)
  | '-' :: rest => (some '-', rest)
  | rest => (none, rest)

/-- The integer that a word writes. -/
def integer? (cs : List Char) : Option Int :=
  match cs with
  | '0' :: 'x' :: ds => (plainDigits? 16 ds).map fun ds => (digitsToNat 16 ds : Int)
  | '0' :: 'o' :: ds => (plainDigits? 8 ds).map fun ds => (digitsToNat 8 ds : Int)
  | '0' :: 'b' :: ds => (plainDigits? 2 ds).map fun ds => (digitsToNat 2 ds : Int)
  | cs =>
    let (sign, ds) := signed cs
    (wholeDigits? ds).map fun ds =>
      let n : Int := digitsToNat 10 ds
      if sign == some '-' then -n else n

/-- The double that a word writes: digits with a fraction, an exponent or
both, or one of two names. Numbers too large for a double are refused. -/
def double? (cs : List Char) : Option Float :=
  let (sign, body) := signed cs
  let isMark (c : Char) : Bool := c = 'e' || c = 'E'
  let magnitude : Option Float :=
    if body = ['i', 'n', 'f'] then some (1.0 / 0.0)
    else if body = ['n', 'a', 'n'] then some (0.0 / 0.0)
    else
      let mantissa := body.takeWhile (!isMark ·)
      let exponent := body.dropWhile (!isMark ·)
      let digits : Option (List Char) :=
        match Text.cutFirstChars? '.' mantissa with
        | some (whole, fraction) => do
          let ws ← wholeDigits? whole
          let fs ← plainDigits? 10 fraction
          pure (ws ++ '.' :: fs)
        | none => if exponent.isEmpty then none else wholeDigits? mantissa
      let power : Option (List Char) :=
        match exponent with
        | [] => some []
        | _ :: rest =>
          let (sign, ds) := signed rest
          (plainDigits? 10 ds).map fun ds => 'e' :: (if sign == some '-' then ['-'] else []) ++ ds
      match digits, power with
      | some ds, some ps => (Decimal.literalChars? (ds ++ ps)).filter Float.isFinite
      | _, _ => none
  magnitude.map fun x => if sign == some '-' then -x else x

/-! ## Moments -/

def isLeap (year : Nat) : Bool := year % 4 == 0 && (year % 100 != 0 || year % 400 == 0)

def daysOf (year month : Nat) : Nat :=
  if month = 2 then if isLeap year then 29 else 28
  else if month = 4 || month = 6 || month = 9 || month = 11 then 30
  else 31

/-- Reads so many digits. -/
def fixedDigits? (count : Nat) (cs : List Char) : Option (Nat × List Char) :=
  let ds := cs.take count
  if ds.length = count && ds.all Char.isDigit then some (digitsToNat 10 ds, cs.drop count) else none

/-- What follows a given character, if it comes first. -/
def expect? (c : Char) (cs : List Char) : Option (List Char) :=
  if cs.head? == some c then some cs.tail else none

/-- What follows a date. -/
def date? (cs : List Char) : Option (List Char) := do
  let (year, cs) ← fixedDigits? 4 cs
  let cs ← expect? '-' cs
  let (month, cs) ← fixedDigits? 2 cs
  let cs ← expect? '-' cs
  let (day, cs) ← fixedDigits? 2 cs
  if 1 ≤ month && month ≤ 12 && 1 ≤ day && day ≤ daysOf year month then some cs else none

/-- What follows a time of day. Seconds and their fraction may be left out. -/
def time? (cs : List Char) : Option (List Char) := do
  let (hour, cs) ← fixedDigits? 2 cs
  let cs ← expect? ':' cs
  let (minute, cs) ← fixedDigits? 2 cs
  if hour ≤ 23 && minute ≤ 59 then
    match cs with
    | ':' :: cs => do
      let (second, cs) ← fixedDigits? 2 cs
      if 60 < second then none
      else
        match cs with
        | '.' :: cs => if cs.head?.any Char.isDigit then some (cs.dropWhile Char.isDigit) else none
        | cs => some cs
    | cs => some cs
  else none

/-- Whether a text is an offset from universal time. -/
def isOffset (cs : List Char) : Bool :=
  match cs with
  | ['Z'] => true
  | ['z'] => true
  | sign :: cs =>
    (sign = '+' || sign = '-') &&
      match fixedDigits? 2 cs with
      | some (hour, ':' :: cs) =>
        match fixedDigits? 2 cs with
        | some (minute, []) => hour ≤ 23 && minute ≤ 59
        | _ => false
      | _ => false
  | [] => false

/-- Whether a text is a date, a time, or a date with a time and perhaps an offset. -/
def isMoment (cs : List Char) : Bool :=
  time? cs == some [] ||
    match date? cs with
    | some [] => true
    | some (mark :: cs) =>
      (mark = 'T' || mark = 't' || mark = ' ') &&
        match time? cs with
        | some rest => rest.isEmpty || isOffset rest
        | none => false
    | none => false

/-! ## Words -/

/-- The characters of numbers, moments and names of values. -/
def isWordChar (c : Char) : Bool :=
  c.isAlphanum || c = '_' || c = '+' || c = '-' || c = '.' || c = ':'

/-- Cuts off the word at the start of a text. A date and a time with one
space between them are one word. -/
def takeWord (cs : List Char) : List Char × List Char :=
  let word := cs.takeWhile isWordChar
  match date? word, cs.dropWhile isWordChar with
  | some [], ' ' :: rest =>
    if rest.head?.any Char.isDigit then
      (word ++ ' ' :: rest.takeWhile isWordChar, rest.dropWhile isWordChar)
    else (word, ' ' :: rest)
  | _, rest => (word, rest)

/-- The widest integers that there are. -/
def isHuge (n : Int) : Bool :=
  n < -0x80000000000000000000000000000000 || 0x100000000000000000000000000000000 ≤ n

/-- The value of a word. -/
def wordValue (cs : List Char) : Except Fault Toml :=
  if cs = ['t', 'r', 'u', 'e'] then .ok (.boolean true)
  else if cs = ['f', 'a', 'l', 's', 'e'] then .ok (.boolean false)
  else
    match integer? cs with
    | some n => if isHuge n then .error .malformed else .ok (.integer n)
    | none =>
      match double? cs with
      | some x => .ok (.float x)
      | none => if isMoment cs then .ok (.moment (String.ofList cs)) else .error .malformed

end Toml

end DeployLint
