import DeployLint.Yaml.Fault

/-!
# YAML — reading position

A cursor is what is left of a text and the mark of its first character.
Scanners are programs over a cursor that may fail; the small ones here move
it by characters, by runs of a class and by line breaks.
-/

namespace DeployLint

namespace Yaml

/-- What is left of a text, and where it begins. -/
structure Cursor where
  rest : List Char
  mark : Mark

/-! ## Character classes -/

/-- A space or a tab. -/
def isBlank (c : Char) : Bool := c = ' ' || c = '\t'

/-- A character that ends a line. -/
def isBreak (c : Char) : Bool :=
  c = '\r' || c = '\n' || c = '\u0085' || c = '\u2028' || c = '\u2029'

/-- The characters of names: ASCII letters and digits, hyphen and underscore. -/
def isNameChar (c : Char) : Bool := c.isAlphanum || c = '-' || c = '_'

/-- The characters that a YAML text may hold. -/
def isAllowed (c : Char) : Bool :=
  let n := c.toNat
  n == 0x09 || n == 0x0A || n == 0x0D || (0x20 ≤ n && n ≤ 0x7E) || n == 0x85 ||
    (0xA0 ≤ n && n ≤ 0xD7FF) || (0xE000 ≤ n && n ≤ 0xFFFD) || 0x10000 ≤ n

/-- Where the first character stands that no YAML text may hold, in bytes. -/
def forbiddenOffset? : List Char → Nat → Option Nat
  | [], _ => none
  | c :: cs, offset =>
    if isAllowed c then forbiddenOffset? cs (offset + c.utf8Size) else some offset

namespace Cursor

def ofText (cs : List Char) : Cursor := ⟨cs, .start⟩

/-- The character so many places ahead. -/
def ahead? (c : Cursor) (n : Nat) : Option Char := c.rest[n]?

/-- Whether a given character stands so many places ahead. -/
def isAt (c : Cursor) (n : Nat) (x : Char) : Bool := c.ahead? n == some x

/-- Whether a character of a class stands at the cursor. -/
def onClass (c : Cursor) (p : Char → Bool) : Bool := (c.ahead? 0).any p

def atEnd (c : Cursor) : Bool := c.rest.isEmpty

/-- Whether a line break or the end of the text stands so many places ahead. -/
def breakOrEndAt (c : Cursor) (n : Nat) : Bool := (c.ahead? n).all isBreak

/-- Whether a blank, a line break or the end of the text stands so many places ahead. -/
def spaceOrEndAt (c : Cursor) (n : Nat) : Bool := (c.ahead? n).all fun x => isBlank x || isBreak x

/-- Whether a line begins here with `---` or `...` as a word of its own. -/
def onDocumentIndicator (c : Cursor) : Bool :=
  c.mark.column == 0 && c.spaceOrEndAt 3 &&
    (c.rest.take 3 == ['-', '-', '-'] || c.rest.take 3 == ['.', '.', '.'])

/-- The cursor one character further. -/
def next (c : Cursor) : Cursor :=
  match c.rest with
  | [] => c
  | _ :: rest => ⟨rest, ⟨c.mark.index + 1, c.mark.line, c.mark.column + 1⟩⟩

/-- The cursor so many characters further. -/
def skip (c : Cursor) : Nat → Cursor
  | 0 => c
  | n + 1 => c.next.skip n

/-- What a line break at the cursor stands for, and the cursor behind it. The
separators of Unicode stand for themselves, all other breaks for a line feed. -/
def takeBreak (c : Cursor) : List Char × Cursor :=
  let below (n : Nat) : Mark := ⟨c.mark.index + n, c.mark.line + 1, 0⟩
  match c.rest with
  | '\r' :: '\n' :: rest => (['\n'], ⟨rest, below 2⟩)
  | x :: rest =>
    if x = '\u2028' || x = '\u2029' then ([x], ⟨rest, below 1⟩)
    else if isBreak x then (['\n'], ⟨rest, below 1⟩)
    else ([], c)
  | [] => ([], c)

/-- The characters of a class at the cursor, and the cursor behind them. -/
def takeClass (p : Char → Bool) (c : Cursor) : List Char × Cursor :=
  let run := c.rest.takeWhile p
  (run, c.skip run.length)

/-- The cursor behind the characters of a class. -/
def skipClass (p : Char → Bool) (c : Cursor) : Cursor := (c.takeClass p).2

/-- The cursor at the end of a comment, if one stands here. -/
def skipComment (c : Cursor) : Cursor :=
  if c.isAt 0 '#' then c.skipClass (fun x => !isBreak x) else c

end Cursor

/-! ## Scanners -/

/-- A program that moves a cursor and may fail. -/
abbrev Scan (α : Type) := StateT Cursor (Except Fault) α

namespace Scan

/-- Fails at the cursor; what was under way since a mark is told. -/
def fail {α : Type} (problem : Problem) (activity : Activity) (since : Mark) : Scan α := do
  throw (.form problem (← get).mark (some ⟨activity, since⟩))

/-- Moves so many characters ahead. -/
def skip (n : Nat) : Scan Unit := modify (·.skip n)

/-- Takes the characters of a class. -/
def takeClass (p : Char → Bool) : Scan (List Char) := do
  let (run, c) := (← get).takeClass p
  set c
  pure run

/-- Takes a line break, if one stands here. -/
def takeBreak : Scan (List Char) := do
  let (line, c) := (← get).takeBreak
  set c
  pure line

/-- Skips blanks and a comment up to the end of the line, and the line break. -/
def restOfLine (activity : Activity) (since : Mark) : Scan Unit := do
  modify fun c => (c.skipClass isBlank).skipComment
  unless (← get).breakOrEndAt 0 do fail .lineEnd activity since
  discard takeBreak

end Scan

end Yaml

end DeployLint
