import DeployLint.Yaml.Token.Scalars

/-!
# YAML — the tokens of a text

Whether a node is a key shows only at the colon behind it, on the same line
and within a bounded distance. Until then the tokens from that node on are
held back, so that the tokens of a key and of a mapping can still be put
before them. `Tokens.ofText` lists the tokens of a text that are settled
before its first fault, and that fault.
-/

namespace DeployLint

namespace Yaml

/-- A place where a key may have begun: the number of the token that it
begins with. A required key must turn out to be one. -/
structure PossibleKey where
  number : Nat
  mark : Mark
  required : Bool

/-- The state of a scan. Tokens are numbered from the start of the text. -/
structure Lexer where
  cursor : Cursor
  /-- The tokens that are held back. -/
  held : List Token := []
  /-- The number of tokens let go, which is that of the first one held. -/
  settled : Nat := 0
  /-- The column of the innermost block collection, `none` outside of any. -/
  column : Option Nat := none
  /-- The columns of the block collections around it. -/
  outer : List (Option Nat) := []
  /-- The depth of flow collections. -/
  flow : Nat := 0
  /-- Whether a key may begin at the cursor. -/
  keyAllowed : Bool := true
  /-- The possible key of the innermost flow collection, or of the block context. -/
  key : Option PossibleKey := none
  /-- The possible keys of the contexts around it. -/
  outerKeys : List (Option PossibleKey) := []
  /-- Whether the end of the text was reached. -/
  ended : Bool := false

namespace Lexer

/-- A scan that may fail. -/
abbrev Result := Except Fault Lexer

def mark (l : Lexer) : Mark := l.cursor.mark

/-- The number of the next token. -/
def number (l : Lexer) : Nat := l.settled + l.held.length

def emit (l : Lexer) (t : Token) : Lexer := { l with held := l.held ++ [t] }

/-- Puts a token before the one of a given number. -/
def insert (l : Lexer) (number : Nat) (t : Token) : Lexer :=
  { l with held := l.held.insertIdx (number - l.settled) t }

/-- Fails at the cursor, with nothing told of what was under way. -/
def refuse {α : Type} (l : Lexer) (problem : Problem) : Except Fault α :=
  .error (.form problem l.mark none)

/-! ## Possible keys -/

/-- The fault of a required key with no colon behind it. -/
def missingColon {α : Type} (l : Lexer) (k : PossibleKey) : Except Fault α :=
  .error (.form .missingColon l.mark (some ⟨.simpleKey, k.mark⟩))

/-- How many characters a key may have. -/
def keyLength : Nat := 1024

/-- Whether a possible key can no longer become one. -/
def isStale (l : Lexer) (k : PossibleKey) : Bool :=
  k.mark.line < l.mark.line || k.mark.index + keyLength < l.mark.index

/-- What remains of a possible key at the cursor. -/
def refresh (l : Lexer) : Option PossibleKey → Except Fault (Option PossibleKey)
  | none => .ok none
  | some k =>
    if !l.isStale k then .ok (some k)
    else if k.required then l.missingColon k
    else .ok none

/-- Gives up the possible keys that can no longer become one, outermost first. -/
def refreshKeys (l : Lexer) : Result := do
  let outer ← l.outerKeys.reverse.mapM l.refresh
  let key ← l.refresh l.key
  pure { l with outerKeys := outer.reverse, key := key }

/-- Gives up the possible key of the innermost context. -/
def dropKey (l : Lexer) : Result :=
  match l.key with
  | some k => if k.required then l.missingColon k else .ok { l with key := none }
  | none => .ok l

/-- Notes that a key may begin at the cursor. At the column of the innermost
block collection nothing else can. -/
def noteKey (l : Lexer) : Result :=
  if l.keyAllowed then do
    let required := l.flow == 0 && l.column == some l.mark.column
    let l' ← l.dropKey
    pure { l' with key := some ⟨l.number, l.mark, required⟩ }
  else .ok l

/-! ## Indentation -/

/-- Opens a block collection, if the column is deeper than the innermost one.
Its token goes to the given place among those held. -/
def openBlock (l : Lexer) (column : Nat) (number : Option Nat) (kind : TokenKind) (mark : Mark) :
    Lexer :=
  if l.flow == 0 && l.column.all (· < column) then
    let l := { l with outer := l.column :: l.outer, column := some column }
    let t : Token := ⟨kind, mark, mark⟩
    match number with
    | some n => l.insert n t
    | none => l.emit t
  else l

/-- Closes block collections while a column is left of theirs. -/
def closeFrom (l : Lexer) (column : Option Nat) : List (Option Nat) → Lexer
  | [] => l
  | outer :: rest =>
    if l.column.any fun c => column.all (· < c) then
      let l := l.emit ⟨.blockEnd, l.mark, l.mark⟩
      { l with column := outer, outer := rest }.closeFrom column rest
    else l

/-- Closes the block collections that a column is left of; `none` is left of all. -/
def closeBlocks (l : Lexer) (column : Option Nat) : Lexer :=
  if l.flow == 0 then l.closeFrom column l.outer else l

/-! ## Single tokens -/

/-- Takes a token of so many characters. -/
def take (l : Lexer) (kind : TokenKind) (length : Nat) : Lexer :=
  let start := l.mark
  let l := { l with cursor := l.cursor.skip length }
  l.emit ⟨kind, start, l.mark⟩

/-- Takes the token of a scanner. -/
def scan (l : Lexer) (scanner : Scan Token) : Result := do
  let (t, cursor) ← scanner.run l.cursor
  pure ({ l with cursor := cursor }.emit t)

/-- Leaves the blocks and the key that a line at the margin ends. -/
def atMargin (l : Lexer) : Result := do
  let l ← (l.closeBlocks none).dropKey
  pure { l with keyAllowed := false }

def streamEnd (l : Lexer) : Result := do
  let mark := l.mark
  let mark : Mark := if mark.column == 0 then mark else ⟨mark.index, mark.line + 1, 0⟩
  let l ← { l with cursor := ⟨[], mark⟩ }.atMargin
  pure { (l.emit ⟨.streamEnd, mark, mark⟩) with ended := true }

def directive (l : Lexer) : Result := do (← l.atMargin).scan Scan.directive

def documentIndicator (l : Lexer) (kind : TokenKind) : Result := do
  pure ((← l.atMargin).take kind 3)

def flowStart (l : Lexer) (kind : TokenKind) : Result := do
  let l ← l.noteKey
  pure ({ l with
    outerKeys := l.key :: l.outerKeys, key := none, flow := l.flow + 1, keyAllowed := true }.take
      kind 1)

def flowEnd (l : Lexer) (kind : TokenKind) : Result := do
  let l ← l.dropKey
  let l :=
    match l.flow, l.outerKeys with
    | n + 1, k :: ks => { l with flow := n, key := k, outerKeys := ks }
    | _, _ => l
  pure ({ l with keyAllowed := false }.take kind 1)

def flowEntry (l : Lexer) : Result := do
  let l ← l.dropKey
  pure ({ l with keyAllowed := true }.take .flowEntry 1)

/-- A dash in a flow collection is a token too; no collection admits it there. -/
def blockEntry (l : Lexer) : Result := do
  if l.flow == 0 && !l.keyAllowed then l.refuse .blockEntry
  else
    let l ← (l.openBlock l.mark.column none .blockSequenceStart l.mark).dropKey
    pure ({ l with keyAllowed := true }.take .blockEntry 1)

def explicitKey (l : Lexer) : Result := do
  if l.flow == 0 && !l.keyAllowed then l.refuse .mappingKey
  else
    let l ← (l.openBlock l.mark.column none .blockMappingStart l.mark).dropKey
    pure ({ l with keyAllowed := l.flow == 0 }.take .key 1)

/-- A colon makes a key of what was held back for it, if anything was. -/
def value (l : Lexer) : Result :=
  match l.key with
  | some k =>
    let l := l.insert k.number ⟨.key, k.mark, k.mark⟩
    let l := l.openBlock k.mark.column (some k.number) .blockMappingStart k.mark
    .ok ({ l with key := none, keyAllowed := false }.take .value 1)
  | none =>
    if l.flow == 0 && !l.keyAllowed then l.refuse .mappingValue
    else
      let l := l.openBlock l.mark.column none .blockMappingStart l.mark
      .ok ({ l with keyAllowed := l.flow == 0 }.take .value 1)

/-- Takes a token that may begin a key, and that no key may follow at once. -/
def nodePart (l : Lexer) (scanner : Scan Token) : Result := do
  let l ← l.noteKey
  { l with keyAllowed := false }.scan scanner

def blockScalar (l : Lexer) (fold : Bool) : Result := do
  let l ← l.dropKey
  { l with keyAllowed := true }.scan (Scan.block fold l.column)

/-- A key may follow a plain scalar that a line break ends. -/
def plainScalar (l : Lexer) : Result := do
  let l ← l.noteKey
  let ((t, broken), cursor) ←
    (Scan.plain (l.flow != 0) ((l.column.map (· + 1)).getD 0)).run l.cursor
  pure ({ l with cursor := cursor, keyAllowed := broken }.emit t)

/-! ## The next token -/

/-- Moves to the next token. A tab counts as a blank only where no key may
begin, and a line break outside flow collections lets one begin. -/
def skipBetween (l : Lexer) : Nat → Lexer
  | 0 => l
  | fuel + 1 =>
    let c := l.cursor
    let c := if c.mark.index == 0 && c.isAt 0 '\uFEFF' then c.next else c
    let tabs := l.flow != 0 || !l.keyAllowed
    let c := (c.skipClass fun x => x = ' ' || (tabs && x = '\t')).skipComment
    if c.onClass isBreak then
      { l with cursor := c.takeBreak.2, keyAllowed := l.keyAllowed || l.flow == 0 }.skipBetween fuel
    else { l with cursor := c }

/-- The characters that cannot begin a plain scalar. -/
def isIndicator (c : Char) : Bool :=
  c = '-' || c = '?' || c = ':' || c = ',' || c = '[' || c = ']' || c = '\x7b' || c = '\x7d' ||
    c = '#' || c = '&' || c = '*' || c = '!' || c = '|' || c = '>' || c = '\'' || c = '"' ||
    c = '%' || c = '@' || c = '\x60'

/-- Whether a plain scalar begins at the cursor. Three of the indicators
begin one if no blank follows them. -/
def onPlainScalar (l : Lexer) (x : Char) : Bool :=
  !(isBlank x || isBreak x || isIndicator x) ||
    (x = '-' && !(l.cursor.ahead? 1).any isBlank) ||
    (l.flow == 0 && (x = '?' || x = ':') && !l.cursor.spaceOrEndAt 1)

/-- Takes the token that begins with a given character. -/
def tokenAt (l : Lexer) (x : Char) : Result :=
  let c := l.cursor
  let alone := l.flow != 0 || c.spaceOrEndAt 1
  if c.mark.column == 0 && x = '%' then l.directive
  else if c.onDocumentIndicator then
    l.documentIndicator (if x = '-' then .documentStart else .documentEnd)
  else if x = '[' then l.flowStart .flowSequenceStart
  else if x = '\x7b' then l.flowStart .flowMappingStart
  else if x = ']' then l.flowEnd .flowSequenceEnd
  else if x = '\x7d' then l.flowEnd .flowMappingEnd
  else if x = ',' then l.flowEntry
  else if x = '-' && c.spaceOrEndAt 1 then l.blockEntry
  else if x = '?' && alone then l.explicitKey
  else if x = ':' && alone then l.value
  else if x = '*' then l.nodePart (Scan.anchor true)
  else if x = '&' then l.nodePart (Scan.anchor false)
  else if x = '!' then l.nodePart (Scan.tag (l.flow != 0))
  else if x = '|' && l.flow == 0 then l.blockScalar false
  else if x = '>' && l.flow == 0 then l.blockScalar true
  else if x = '\'' then l.nodePart (Scan.quoted true)
  else if x = '"' then l.nodePart (Scan.quoted false)
  else if l.onPlainScalar x then l.plainScalar
  else .error (.form .noToken l.mark (some ⟨.nextToken, l.mark⟩))

/-- Takes the next token, and those that indentation puts before it. -/
def nextToken (l : Lexer) : Result := do
  let l ← (l.skipBetween (l.cursor.rest.length + 1)).refreshKeys
  let l := l.closeBlocks (some l.mark.column)
  match l.cursor.ahead? 0 with
  | none => l.streamEnd
  | some x => l.tokenAt x

/-! ## All tokens -/

/-- The number of the first token that a possible key holds back. -/
def firstHeld? (l : Lexer) : Option Nat :=
  ((l.key :: l.outerKeys).filterMap fun k => k.map (·.number)).min?

/-- Lets go of the tokens before the first possible key. -/
def settle (l : Lexer) : List Token × Lexer :=
  let count :=
    match l.firstHeld? with
    | some n => n - l.settled
    | none => l.held.length
  (l.held.take count, { l with held := l.held.drop count, settled := l.settled + count })

/-- The tokens from the state of a scan on, in so many steps. -/
def tokens (l : Lexer) : Nat → List Token × Option Fault
  | 0 => ([], none)
  | fuel + 1 =>
    match l.nextToken >>= refreshKeys with
    | .error f => ([], some f)
    | .ok l =>
      let (now, l) := l.settle
      if l.ended then (now, none)
      else
        let (later, fault) := l.tokens fuel
        (now ++ later, fault)

end Lexer

namespace Tokens

/-- The settled tokens of a text, and the fault that ends them. A mark for
the order of bytes may stand before the text. -/
def ofText (text : List Char) : List Token × Option Fault :=
  match forbiddenOffset? text 0 with
  | some offset => ([], some (.controlCharacter offset))
  | none =>
    let body := match text with
      | '\uFEFF' :: rest => rest
      | cs => cs
    let l : Lexer := { cursor := .ofText body }
    let (tokens, fault) := l.tokens (body.length + 2)
    (⟨.streamStart, .start, .start⟩ :: tokens, fault)

end Tokens

end Yaml

end DeployLint
