import DeployLint.Yaml.Token
import DeployLint.Text.Digits

/-!
# YAML — directives, anchors and tags

The scanners of tokens that are made of names: directives, anchors and
aliases, and tags with their handles and escaped octets.
-/

namespace DeployLint

namespace Yaml

namespace Scan

/-- A token that begins at a mark and ends at the cursor. -/
def token (kind : TokenKind) (start : Mark) : Scan Token := do
  pure ⟨kind, start, (← get).mark⟩

/-! ## Anchors -/

/-- The characters that may follow an anchor or an alias without a blank. -/
def endsAnchor (c : Char) : Bool :=
  c = '?' || c = ':' || c = ',' || c = ']' || c = '\x7d' || c = '%' || c = '@' || c = '\x60'

/-- Scans an anchor or an alias. -/
def anchor (isAlias : Bool) : Scan Token := do
  let start := (← get).mark
  skip 1
  let name ← takeClass isNameChar
  let c ← get
  if name.isEmpty || !(c.spaceOrEndAt 0 || c.onClass endsAnchor) then
    fail .anchorName (if isAlias then .reference else .anchor) start
  else
    let name := String.ofList name
    token (if isAlias then .reference name else .anchor name) start

/-! ## Tags -/

/-- The characters of a tag that are not part of a name. `verbatim` admits
those that end a tag elsewhere. -/
def isUriChar (verbatim : Bool) (c : Char) : Bool :=
  isNameChar c || c = ';' || c = '/' || c = '?' || c = ':' || c = '@' || c = '&' || c = '=' ||
    c = '+' || c = '$' || c = '.' || c = '%' || c = '!' || c = '~' || c = '*' || c = '\'' ||
    c = '(' || c = ')' || (verbatim && (c = ',' || c = '[' || c = ']'))

/-- The number of octets that a first octet announces. -/
def octetCount (octet : Nat) : Nat :=
  if octet < 0x80 then 1
  else if 0xC0 ≤ octet && octet < 0xE0 then 2
  else if 0xE0 ≤ octet && octet < 0xF0 then 3
  else if 0xF0 ≤ octet && octet < 0xF8 then 4
  else 0

/-- Scans one escaped octet. -/
def octet (activity : Activity) (since : Mark) : Scan Nat := do
  let c ← get
  match c.rest with
  | '%' :: a :: b :: _ =>
    match Text.hexValue? a, Text.hexValue? b with
    | some high, some low => do skip 3; pure (16 * high + low)
    | _, _ => fail .uriEscape activity since
  | _ => fail .uriEscape activity since

/-- Scans the octets after the first, so many of them, into a code point. -/
def laterOctets (activity : Activity) (since : Mark) : Nat → Nat → Scan Nat
  | 0, n => pure n
  | count + 1, n => do
    let before ← get
    let o ← octet activity since
    if 0x80 ≤ o && o < 0xC0 then laterOctets activity since count (64 * n + (o - 0x80))
    else do
      set before
      fail .uriTrailingOctet activity since

/-- Scans the escaped octets of one character. -/
def escapedChar (activity : Activity) (since : Mark) : Scan Char := do
  let before ← get
  let first ← octet activity since
  match octetCount first with
  | 0 => do
    set before
    fail .uriLeadingOctet activity since
  | 1 => pure (Char.ofNat first)
  | count + 1 => do
    let n ← laterOctets activity since count (first % 1 <<< (6 - count))
    pure (if n.isValidChar then Char.ofNat n else '\uFFFD')

/-- Scans the characters of a tag up to one that cannot be part of it. -/
def uriChars (verbatim : Bool) (activity : Activity) (since : Mark) : Nat → Scan (List Char)
  | 0 => pure []
  | fuel + 1 => do
    match (← get).ahead? 0 with
    | none => pure []
    | some x =>
      if !isUriChar verbatim x then pure []
      else do
        let x ← if x = '%' then escapedChar activity since else do skip 1; pure x
        pure (x :: (← uriChars verbatim activity since fuel))

/-- Scans the rest of a tag, behind characters of it that were read before;
the exclamation mark that begins those is no part of the result. -/
def tagUri (verbatim inDirective : Bool) (lead : List Char) (since : Mark) : Scan (List Char) := do
  let activity : Activity := if inDirective then .tagDirectiveUri else .tagText
  let chars ← uriChars verbatim activity since ((← get).rest.length + 1)
  if lead.isEmpty && chars.isEmpty then fail .tagUri activity since
  else pure (lead.drop 1 ++ chars)

/-- Scans the handle of a tag: `!`, `!!`, or a name between two of them. -/
def tagHandle (inDirective : Bool) (since : Mark) : Scan (List Char) := do
  unless (← get).isAt 0 '!' do
    fail .tagMark (if inDirective then .tagDirectiveHandle else .tag) since
  skip 1
  let name ← takeClass isNameChar
  if (← get).isAt 0 '!' then
    skip 1
    pure ('!' :: name ++ ['!'])
  else if inDirective && !name.isEmpty then fail .tagMark .tagDirectivePart since
  else pure ('!' :: name)

/-- Scans a tag. A lone exclamation mark has no handle. -/
def tag (inFlow : Bool) : Scan Token := do
  let start := (← get).mark
  let (handle, ending) ←
    if (← get).isAt 1 '<' then do
      skip 2
      let uri ← tagUri true false [] start
      unless (← get).isAt 0 '>' do fail .tagClose .tag start
      skip 1
      pure ([], uri)
    else do
      let handle ← tagHandle false start
      if 2 ≤ handle.length && handle.getLast? == some '!' then
        pure (handle, ← tagUri false false [] start)
      else do
        let ending ← tagUri false false handle start
        pure (if ending.isEmpty then ([], ['!']) else (['!'], ending))
  let c ← get
  if c.spaceOrEndAt 0 || (inFlow && c.isAt 0 ',') then
    token (.tag (String.ofList handle) (String.ofList ending)) start
  else fail .whitespaceOrBreak .tag start

/-! ## Directives -/

/-- Scans a number of a version. -/
def versionNumber (since : Mark) : Nat → Nat → Nat → Scan Nat
  | 0, _, n => pure n
  | fuel + 1, count, n => do
    match (← get).ahead? 0 with
    | some x =>
      if x.isDigit then
        if 9 ≤ count then fail .versionTooLong .versionDirective since
        else do
          skip 1
          versionNumber since fuel (count + 1) (10 * n + (x.toNat - '0'.toNat))
      else if count = 0 then fail .versionMissing .versionDirective since
      else pure n
    | none => if count = 0 then fail .versionMissing .versionDirective since else pure n

/-- Scans the version that a directive names. -/
def version (since : Mark) : Scan TokenKind := do
  modify (·.skipClass isBlank)
  let major ← versionNumber since 11 0 0
  unless (← get).isAt 0 '.' do fail .versionPoint .versionDirective since
  skip 1
  let minor ← versionNumber since 11 0 0
  pure (.versionDirective major minor)

/-- Scans the handle that a directive declares, and what it stands for. -/
def tagDeclaration (since : Mark) : Scan TokenKind := do
  modify (·.skipClass isBlank)
  let handle ← tagHandle true since
  unless (← get).onClass isBlank do fail .whitespace .tagDirective since
  modify (·.skipClass isBlank)
  let lead ← tagUri true true [] since
  unless (← get).spaceOrEndAt 0 do fail .whitespaceOrBreak .tagDirective since
  pure (.tagDirective (String.ofList handle) (String.ofList lead))

/-- Scans a directive and the rest of its line. -/
def directive : Scan Token := do
  let start := (← get).mark
  skip 1
  let name ← takeClass isNameChar
  if name.isEmpty then fail .noDirectiveName .directive start
  unless (← get).spaceOrEndAt 0 do fail .oddDirectiveName .directive start
  let kind ←
    if name = ['Y', 'A', 'M', 'L'] then version start
    else if name = ['T', 'A', 'G'] then tagDeclaration start
    else fail .unknownDirective .directive start
  let t ← token kind start
  restOfLine .directive start
  pure t

end Scan

end Yaml

end DeployLint
