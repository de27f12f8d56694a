import DeployLint.Toml.Scalars

/-!
# TOML — reading

A text is a list of lines: assignments, headers of tables, headers of listed
tables, comments. `Toml.read` reads it into the table it describes.
-/

namespace DeployLint

namespace Toml

/-! ## Keys -/

/-- The characters of keys that need no quotes. -/
def isKeyChar (c : Char) : Bool := c.isAlphanum || c = '-' || c = '_'

/-- Reads one key. -/
def simpleKey (cs : List Char) : Except Fault (String × List Char) :=
  match lineString? cs with
  | some read => read
  | none =>
    let key := cs.takeWhile isKeyChar
    if key.isEmpty then .error .malformed
    else .ok (String.ofList key, cs.dropWhile isKeyChar)

/-- Reads keys with points between them: those before the last, and the last. -/
def dottedKey : Nat → List Char → Except Fault ((List String × String) × List Char)
  | 0, _ => .error .tooDeep
  | fuel + 1, cs => do
    let (key, cs) ← simpleKey cs
    match skipBlanks cs with
    | '.' :: rest => do
      let ((keys, last), rest) ← dottedKey fuel (skipBlanks rest)
      pure ((key :: keys, last), rest)
    | rest => pure (([], key), rest)

/-! ## Space between values -/

/-- What follows a comment, or the text itself if none comes first. -/
def skipComment : List Char → Except Fault (List Char)
  | '#' :: cs =>
    let rest := cs.dropWhile isText
    if rest.isEmpty || (newline? rest).isSome then .ok rest else .error .malformed
  | cs => .ok cs

/-- Skips blanks, comments and line breaks. -/
def skipSpace : Nat → List Char → Except Fault (List Char)
  | 0, cs => .ok cs
  | fuel + 1, cs => do
    let cs ← skipComment (skipBlanks cs)
    match newline? cs with
    | some rest => skipSpace fuel rest
    | none => pure cs

/-- What follows the end of a line: blanks, a comment, and a line break or
the end of the text. -/
def endOfLine (cs : List Char) : Except Fault (List Char) := do
  let cs ← skipComment (skipBlanks cs)
  match cs, newline? cs with
  | [], _ => pure []
  | _, some rest => pure rest
  | _, none => throw .malformed

/-! ## Values -/

/-- How deep values may be nested. -/
def depthLimit : Nat := 80

mutual

/-- Reads a value, with so many levels left. -/
def value : Nat → Nat → List Char → Except Fault (Toml × List Char)
  | 0, _, _ => .error .tooDeep
  | fuel + 1, levels, cs =>
    match anyString? cs with
    | some read => read.map fun (s, rest) => (.string s, rest)
    | none =>
      match cs with
      | '[' :: rest =>
        if levels = 0 then .error .tooDeep
        else do
          let (vs, rest) ← items fuel (levels - 1) rest
          pure (.array vs, rest)
      | '\x7b' :: rest =>
        if levels = 0 then .error .tooDeep
        else do
          let (entries, rest) ← pairs fuel (levels - 1) [] rest
          pure (.table (finishEntries entries), rest)
      | cs => do
        let (word, rest) := takeWord cs
        let v ← wordValue word
        pure (v, rest)

/-- Reads the items of an array up to its end. -/
def items : Nat → Nat → List Char → Except Fault (List Toml × List Char)
  | 0, _, _ => .error .tooDeep
  | fuel + 1, levels, cs => do
    match ← skipSpace (cs.length + 1) cs with
    | ']' :: rest => pure ([], rest)
    | cs => do
      let (v, rest) ← value fuel levels cs
      match ← skipSpace (rest.length + 1) rest with
      | ',' :: rest => do
        let (vs, rest) ← items fuel levels rest
        pure (v :: vs, rest)
      | ']' :: rest => pure ([v], rest)
      | _ => throw .malformed

/-- Reads the pairs of an inline table up to its end, into those read before. -/
def pairs : Nat → Nat → Entries → List Char → Except Fault (Entries × List Char)
  | 0, _, _, _ => .error .tooDeep
  | fuel + 1, levels, entries, cs => do
    match ← skipSpace (cs.length + 1) cs with
    | '\x7d' :: rest => pure (entries, rest)
    | cs => do
      let ((before, key), rest) ← dottedKey (cs.length + 1) cs
      match skipBlanks rest with
      | '=' :: rest => do
        let (v, rest) ← value fuel levels (skipBlanks rest)
        let entries ← assign before key v .header entries
        match ← skipSpace (rest.length + 1) rest with
        | ',' :: rest => pairs fuel levels entries rest
        | '\x7d' :: rest => pure (entries, rest)
        | _ => throw .malformed
      | _ => throw .malformed

end

/-! ## Lines -/

/-- A text as far as it was read: the whole table, and the keys that lead to
the table of the last header. -/
structure Draft where
  root : Entries
  header : List String

/-- Reads the header of a table, behind its bracket. -/
def tableHeader (d : Draft) (cs : List Char) : Except Fault (Draft × List Char) := do
  let ((before, key), rest) ← dottedKey (cs.length + 1) (skipBlanks cs)
  match rest with
  | ']' :: rest => do
    let root ← openTable before key d.root
    pure (⟨root, before ++ [key]⟩, rest)
  | _ => throw .malformed

/-- Reads the header of a listed table, behind its two brackets. -/
def listedHeader (d : Draft) (cs : List Char) : Except Fault (Draft × List Char) := do
  let ((before, key), rest) ← dottedKey (cs.length + 1) (skipBlanks cs)
  match rest with
  | ']' :: ']' :: rest => do
    let root ← openListed before key d.root
    pure (⟨root, before ++ [key]⟩, rest)
  | _ => throw .malformed

/-- Reads an assignment into the table of the last header. -/
def assignment (d : Draft) (cs : List Char) : Except Fault (Draft × List Char) := do
  let ((before, key), rest) ← dottedKey (cs.length + 1) cs
  match rest with
  | '=' :: rest => do
    let rest := skipBlanks rest
    let (v, rest) ← value (2 * rest.length + 2) depthLimit rest
    let root ← descend false (assign before key v) .header d.root d.header
    pure ({ d with root := root }, rest)
  | _ => throw .malformed

/-- Reads lines up to the end of the text. -/
def lines : Nat → Draft → List Char → Except Fault Draft
  | 0, d, _ => .ok d
  | fuel + 1, d, cs => do
    let cs ← skipSpace (cs.length + 1) cs
    match cs with
    | [] => pure d
    | '[' :: '[' :: rest => do
      let (d, rest) ← listedHeader d rest
      lines fuel d (← endOfLine rest)
    | '[' :: rest => do
      let (d, rest) ← tableHeader d rest
      lines fuel d (← endOfLine rest)
    | cs => do
      let (d, rest) ← assignment d cs
      lines fuel d (← endOfLine rest)

/-- Reads a text. A mark for the order of bytes may stand before it. -/
def read (text : String) : Except Fault Toml := do
  let cs := match text.toList with
    | '\uFEFF' :: rest => rest
    | cs => cs
  let d ← lines (cs.length + 1) ⟨[], []⟩ cs
  pure (.table (finishEntries d.root))

end Toml

end DeployLint
