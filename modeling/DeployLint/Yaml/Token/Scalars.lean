import DeployLint.Yaml.Token.Names

/-!
# YAML — scalars

The scanners of the three ways to write a scalar. Plain and quoted scalars
may run over several lines, which are folded: one line break between two
lines becomes a space, further ones stay. Block scalars take their lines as
they are, or fold them, by their header.
-/

namespace DeployLint

namespace Yaml

/-! ## Folding -/

/-- The blanks and line breaks between two pieces of a scalar: the blanks
before the first break, that break, and the breaks after it. -/
structure Gap where
  blanks : List Char := []
  first : List Char := []
  later : List Char := []
  /-- Whether a line break was met. -/
  broken : Bool := false

namespace Gap

/-- What a gap adds to the text of a scalar. A single line feed becomes a
space, and a first line feed gives way to further breaks. -/
def text (g : Gap) : List Char :=
  if !g.broken then g.blanks
  else if g.first.head? == some '\n' then
    if g.later.isEmpty then [' '] else g.later
  else g.first ++ g.later

/-- The gap with one more line break. -/
def addBreak (g : Gap) (line : List Char) : Gap :=
  if g.broken then { g with later := g.later ++ line }
  else { g with blanks := [], first := line, broken := true }

end Gap

namespace Scan

/-! ## Quoted scalars -/

/-- The characters that a letter behind a backslash stands for. -/
def shortEscape? (c : Char) : Option Char :=
  match c with
  | '0' => some '\x00'
  | 'a' => some '\x07'
  | 'b' => some '\x08'
  | 't' => some '\t'
  | '\t' => some '\t'
  | 'n' => some '\n'
  | 'v' => some '\x0b'
  | 'f' => some '\x0c'
  | 'r' => some '\r'
  | 'e' => some '\x1b'
  | ' ' => some ' '
  | '"' => some '"'
  | '/' => some '/'
  | '\\' => some '\\'
  | 'N' => some '\u0085'
  | '_' => some '\u00a0'
  | 'L' => some '\u2028'
  | 'P' => some '\u2029'
  | _ => none

/-- The number of digits that a letter behind a backslash calls for. -/
def escapeLength? (c : Char) : Option Nat :=
  match c with
  | 'x' => some 2
  | 'u' => some 4
  | 'U' => some 8
  | _ => none

/-- Scans an escape that begins at the cursor. -/
def escape (since : Mark) : Scan Char := do
  let some letter := (← get).ahead? 1 | fail .unknownEscape .quotedEscape since
  match shortEscape? letter, escapeLength? letter with
  | some x, _ => do skip 2; pure x
  | none, some count => do
    skip 2
    let digits := (← get).rest.take count
    let some n := Text.hexNumber? digits | fail .hexNumber .quotedEscape since
    if digits.length < count then fail .hexNumber .quotedEscape since
    else if !n.isValidChar then fail .codePoint .quotedEscape since
    else do skip count; pure (Char.ofNat n)
  | none, none => fail .unknownEscape .quotedEscape since

/-- Scans the characters of a quoted scalar up to a blank, a line break, the
closing quote or the end, and tells whether an escaped line break ended them. -/
def quotedRun (single : Bool) (since : Mark) : Nat → Scan (List Char × Bool)
  | 0 => pure ([], false)
  | fuel + 1 => do
    let c ← get
    match c.ahead? 0 with
    | none => pure ([], false)
    | some x =>
      if isBlank x || isBreak x then pure ([], false)
      else if single && x = '\'' && c.isAt 1 '\'' then do
        skip 2
        let (xs, escaped) ← quotedRun single since fuel
        pure ('\'' :: xs, escaped)
      else if x = (if single then '\'' else '"') then pure ([], false)
      else if !single && x = '\\' && (c.ahead? 1).any isBreak then do
        skip 1
        discard takeBreak
        pure ([], true)
      else do
        let x ← if !single && x = '\\' then escape since else do skip 1; pure x
        let (xs, escaped) ← quotedRun single since fuel
        pure (x :: xs, escaped)

/-- Scans the blanks and line breaks inside a quoted scalar. -/
def quotedGap (gap : Gap) : Nat → Scan Gap
  | 0 => pure gap
  | fuel + 1 => do
    match (← get).ahead? 0 with
    | none => pure gap
    | some x =>
      if isBlank x then do
        skip 1
        quotedGap (if gap.broken then gap else { gap with blanks := gap.blanks ++ [x] }) fuel
      else if isBreak x then do
        let line ← takeBreak
        quotedGap (gap.addBreak line) fuel
      else pure gap

/-- Scans a quoted scalar from behind its opening quote to the closing one. -/
def quotedBody (single : Bool) (since : Mark) : Nat → Scan (List Char)
  | 0 => fail .endOfStream .quotedScalar since
  | fuel + 1 => do
    let c ← get
    if c.onDocumentIndicator then fail .documentIndicator .quotedScalar since
    else if c.atEnd then fail .endOfStream .quotedScalar since
    else do
      let (run, escaped) ← quotedRun single since (c.rest.length + 1)
      if (← get).isAt 0 (if single then '\'' else '"') then pure run
      else do
        let gap ← quotedGap { broken := escaped } (c.rest.length + 1)
        pure (run ++ gap.text ++ (← quotedBody single since fuel))

/-- Scans a quoted scalar. -/
def quoted (single : Bool) : Scan Token := do
  let start := (← get).mark
  skip 1
  let text ← quotedBody single start ((← get).rest.length + 1)
  skip 1
  token (.scalar (String.ofList text) (if single then .singleQuoted else .doubleQuoted)) start

/-! ## Plain scalars -/

/-- The characters that end a plain scalar inside flow collections. -/
def isFlowMark (c : Char) : Bool :=
  c = ',' || c = '[' || c = ']' || c = '\x7b' || c = '\x7d'

/-- Scans the characters of a plain scalar up to a blank, a line break or a
character that ends it. -/
def plainRun (inFlow : Bool) (since : Mark) : Nat → Scan (List Char)
  | 0 => pure []
  | fuel + 1 => do
    let c ← get
    match c.ahead? 0 with
    | none => pure []
    | some x =>
      if isBlank x || isBreak x then pure []
      else if inFlow && x = ':' && (c.ahead? 1).any (fun y => isFlowMark y || y = '?') then
        fail .unexpectedColon .plainScalar since
      else if (x = ':' && c.spaceOrEndAt 1) || (inFlow && isFlowMark x) then pure []
      else do
        skip 1
        pure (x :: (← plainRun inFlow since fuel))

/-- Scans the blanks and line breaks inside a plain scalar. Tabs may not
stand in the indentation. -/
def plainGap (column : Nat) (since : Mark) (gap : Gap) : Nat → Scan Gap
  | 0 => pure gap
  | fuel + 1 => do
    let c ← get
    match c.ahead? 0 with
    | none => pure gap
    | some x =>
      if isBlank x then
        if gap.broken && c.mark.column < column && x = '\t' then
          fail .tabInPlain .plainScalar since
        else do
          skip 1
          plainGap column since
            (if gap.broken then gap else { gap with blanks := gap.blanks ++ [x] }) fuel
      else if isBreak x then do
        let line ← takeBreak
        plainGap column since (gap.addBreak line) fuel
      else pure gap

/-- What a plain scalar is scanned into: its text so far, the gap behind it,
and the mark where the text ends. -/
structure PlainText where
  chars : List Char
  gap : Gap
  stop : Mark

/-- Scans the pieces of a plain scalar. Outside flow collections it ends at
a line that is not indented to its column. -/
def plainBody (inFlow : Bool) (column : Nat) (since : Mark) (sofar : PlainText) :
    Nat → Scan PlainText
  | 0 => pure sofar
  | fuel + 1 => do
    let c ← get
    if c.onDocumentIndicator || c.isAt 0 '#' then pure sofar
    else do
      let run ← plainRun inFlow since (c.rest.length + 1)
      let behind ← get
      let sofar : PlainText :=
        if run.isEmpty then sofar
        else ⟨sofar.chars ++ sofar.gap.text ++ run, {}, behind.mark⟩
      if !behind.onClass (fun x => isBlank x || isBreak x) then pure sofar
      else do
        let gap ← plainGap column since sofar.gap (behind.rest.length + 1)
        let sofar := { sofar with gap := gap }
        if !inFlow && (← get).mark.column < column then pure sofar
        else plainBody inFlow column since sofar fuel

/-- Scans a plain scalar, and tells whether a line break follows it. -/
def plain (inFlow : Bool) (column : Nat) : Scan (Token × Bool) := do
  let c ← get
  let t ← plainBody inFlow column c.mark ⟨[], {}, c.mark⟩ (c.rest.length + 1)
  pure (⟨.scalar (String.ofList t.chars) .plain, c.mark, t.stop⟩, t.gap.broken)

/-! ## Block scalars -/

/-- What becomes of the line breaks at the end of a block scalar. -/
inductive Chomping where
  /-- All of them are dropped. -/
  | strip
  /-- The first one is kept. -/
  | clip
  /-- All of them are kept. -/
  | keep
deriving DecidableEq, Repr

/-- Scans a chomping indicator, if there is one. -/
def chomping? : Scan (Option Chomping) := do
  match (← get).ahead? 0 with
  | some '+' => do skip 1; pure (some .keep)
  | some '-' => do skip 1; pure (some .strip)
  | _ => pure none

/-- Scans an indentation indicator, if there is one. -/
def indentation? (since : Mark) : Scan (Option Nat) := do
  match (← get).ahead? 0 with
  | some x =>
    if x = '0' then fail .zeroIndentation .blockScalar since
    else if x.isDigit then do skip 1; pure (some (x.toNat - '0'.toNat))
    else pure none
  | none => pure none

/-- Scans the two indicators of a header, in either order. -/
def blockIndicators (since : Mark) : Scan (Chomping × Option Nat) := do
  match ← chomping? with
  | some chomping => pure (chomping, ← indentation? since)
  | none =>
    match ← indentation? since with
    | some n => pure ((← chomping?).getD .clip, some n)
    | none => pure (.clip, none)

/-- Scans the indentation of lines and the line breaks of empty ones, up to
the first line with content: the breaks, the widest indentation met, and the
mark behind the last break. -/
def blockBreaks (column : Option Nat) (since : Mark) (breaks : List Char) (widest : Nat)
    (stop : Mark) : Nat → Scan (List Char × Nat × Mark)
  | 0 => pure (breaks, widest, stop)
  | fuel + 1 => do
    let within (c : Cursor) : Bool := column.all fun n => c.mark.column < n
    let c ← get
    let spaces := (c.rest.takeWhile (· = ' ')).length
    let c := c.skip (match column with | none => spaces | some n => min spaces (n - c.mark.column))
    set c
    let widest := max widest c.mark.column
    if within c && c.isAt 0 '\t' then fail .tabIndentation .blockScalar since
    else if !c.onClass isBreak then pure (breaks, widest, stop)
    else do
      let line ← takeBreak
      blockBreaks column since (breaks ++ line) widest (← get).mark fuel

/-- What stands between two lines of a block scalar. When lines are folded, a
line feed between two lines that begin with no blank becomes a space, or
nothing if empty lines follow it. -/
def blockJoin (fold : Bool) (first later : List Char) (blankBefore blankAfter : Bool) :
    List Char :=
  if fold && first.head? == some '\n' && !blankBefore && !blankAfter then
    if later.isEmpty then [' '] else later
  else first ++ later

/-- The text of a block scalar as far as it was scanned: the text up to the
last line, the break behind that line, the breaks of the empty lines after
it, whether the line began with a blank, and the mark behind the breaks. -/
structure BlockText where
  chars : List Char
  first : List Char
  later : List Char
  blank : Bool
  stop : Mark

/-- Scans the lines of a block scalar at a given indentation. -/
def blockLines (fold : Bool) (column : Nat) (since : Mark) (sofar : BlockText) :
    Nat → Scan BlockText
  | 0 => pure sofar
  | fuel + 1 => do
    let c ← get
    if c.mark.column != column || c.atEnd then pure sofar
    else do
      let blank := c.onClass isBlank
      let joint := blockJoin fold sofar.first sofar.later sofar.blank blank
      let line ← takeClass fun x => !isBreak x
      let first ← takeBreak
      let behind ← get
      let (later, _, stop) ←
        blockBreaks (some column) since [] 0 behind.mark (behind.rest.length + 1)
      blockLines fold column since
        ⟨sofar.chars ++ joint ++ line, first, later, blank, stop⟩ fuel

/-- Scans a block scalar inside a given indentation, `none` outside of any. -/
def block (fold : Bool) (indentation : Option Nat) : Scan Token := do
  let start := (← get).mark
  skip 1
  let (chomping, increment) ← blockIndicators start
  restOfLine .blockScalar start
  let c ← get
  let column := increment.map fun n => indentation.getD 0 + n
  let (later, widest, stop) ← blockBreaks column start [] 0 c.mark (c.rest.length + 1)
  let least := (indentation.map (· + 1)).getD 0
  let column := column.getD (max (max widest least) 1)
  let t ← blockLines fold column start ⟨[], [], later, false, stop⟩ ((← get).rest.length + 1)
  let tail :=
    match chomping with
    | .strip => []
    | .clip => t.first
    | .keep => t.first ++ t.later
  let style : ScalarStyle := if fold then .folded else .literal
  pure ⟨.scalar (String.ofList (t.chars ++ tail)) style, start, t.stop⟩

end Scan

end Yaml

end DeployLint
