import DeployLint.Yaml.Token.Stream

/-!
# YAML — events

Events are the tokens of a text put in order as nodes: scalars, aliases,
and the starts and ends of collections and documents. The grammar below
reads tokens and notes events as it goes, so that what stands before a
fault is known when the fault is met.
-/

namespace DeployLint

namespace Yaml

/-- What a node is named and marked with. -/
structure NodeProperties where
  anchor : Option String
  tag : Option String
deriving DecidableEq, Repr

namespace NodeProperties

def none : NodeProperties := ⟨.none, .none⟩

def isNone (p : NodeProperties) : Bool := p.anchor.isNone && p.tag.isNone

end NodeProperties

/-- An event. -/
inductive Event where
  | documentStart
  | documentEnd
  | reference (name : String)
  | scalar (properties : NodeProperties) (text : String) (style : ScalarStyle)
  | sequenceStart (properties : NodeProperties)
  | sequenceEnd
  | mappingStart (properties : NodeProperties)
  | mappingEnd
  | streamEnd
deriving DecidableEq, Repr

/-- An event, with the mark it begins at. -/
structure Placed where
  event : Event
  mark : Mark
deriving DecidableEq, Repr

/-- The state of a reading: the tokens to come and the fault behind them, the
handles declared for the current document, and the events noted, last first. -/
structure Reading where
  tokens : List Token
  fault : Option Fault
  handles : List (String × String)
  noted : List Placed

/-- A part of the grammar. A fault keeps the events noted before it. -/
abbrev Grammar (α : Type) := EStateM Fault Reading α

namespace Grammar

/-- A token beyond the last one; the grammar never asks for it. -/
def beyond : Token := ⟨.streamEnd, .start, .start⟩

/-- The next token. -/
def peek : Grammar Token := do
  let r ← get
  match r.tokens, r.fault with
  | t :: _, _ => pure t
  | [], some f => throw f
  | [], none => pure beyond

def drop : Grammar Unit := modify fun r => { r with tokens := r.tokens.tail }

def note (e : Event) (mark : Mark) : Grammar Unit :=
  modify fun r => { r with noted := ⟨e, mark⟩ :: r.noted }

def fail {α : Type} (problem : Problem) (place : Mark) (activity : Activity) (since : Mark) :
    Grammar α :=
  throw (.form problem place (some ⟨activity, since⟩))

/-- Notes a scalar that is not written at all. -/
def absent (mark : Mark) : Grammar Unit := note (.scalar .none "" .plain) mark

/-! ## Node properties -/

/-- The full tag of a handle and an ending. A tag without a handle is its own ending. -/
def resolveTag (handle ending : String) (since tagMark : Mark) : Grammar String := do
  if handle.isEmpty then pure ending
  else
    match (← get).handles.find? fun p => p.1 == handle with
    | some (_, lead) => pure (lead ++ ending)
    | none => fail .undefinedHandle tagMark .node since

/-- A tag of a node before its handle is resolved. -/
structure RawTag where
  handle : String
  ending : String
  mark : Mark

def takeAnchor? : Grammar (Option String) := do
  let t ← peek
  match t.kind with
  | .anchor name => do drop; pure (some name)
  | _ => pure none

def takeTag? : Grammar (Option RawTag) := do
  let t ← peek
  match t.kind with
  | .tag handle ending => do drop; pure (some ⟨handle, ending, t.start⟩)
  | _ => pure none

/-- Reads an anchor and a tag, in either order. -/
def properties : Grammar NodeProperties := do
  let since := (← peek).start
  let early ← takeAnchor?
  let raw ← takeTag?
  let anchor ← if early.isNone && raw.isSome then takeAnchor? else pure early
  discard peek
  let tag ← match raw with
    | some t => some <$> resolveTag t.handle t.ending since t.mark
    | none => pure none
  pure ⟨anchor, tag⟩

/-! ## Nodes -/

/-- The token kinds that end an entry of a block mapping without a node. -/
def endsBlockPair : TokenKind → Bool
  | .key | .value | .blockEnd => true
  | _ => false

/-- The token kinds that end an entry of a block sequence without a node. -/
def endsBlockEntry : TokenKind → Bool
  | .blockEntry | .blockEnd => true
  | _ => false

/-- The token kinds that end an entry of an unindented sequence without a node. -/
def endsPlainEntry (k : TokenKind) : Bool := endsBlockPair k || k == .blockEntry

mutual

/-- Reads a node. `block` admits block collections, `unindented` also a
sequence at the column of the mapping around it. -/
def node (block unindented : Bool) : Nat → Grammar Unit
  | 0 => pure ()
  | fuel + 1 => do
    let t ← peek
    if let .reference name := t.kind then
      note (.reference name) t.start
      drop
    else
      let since := t.start
      let p ← properties
      let t ← peek
      if unindented && t.kind == .blockEntry then
        note (.sequenceStart p) since
        unindentedEntries fuel
      else match t.kind with
        | .scalar text style => do
          let tag := if p.tag == some "!" then none else p.tag
          note (.scalar ⟨p.anchor, tag⟩ text style) since
          drop
        | .flowSequenceStart => do
          note (.sequenceStart p) since
          drop
          flowItems t.start true fuel
        | .flowMappingStart => do
          note (.mappingStart p) since
          drop
          flowPairs t.start true fuel
        | kind =>
          if block && kind == .blockSequenceStart then do
            note (.sequenceStart p) since
            drop
            blockEntries t.start fuel
          else if block && kind == .blockMappingStart then do
            note (.mappingStart p) since
            drop
            blockPairs t.start fuel
          else if !p.isNone then note (.scalar p "" .plain) since
          else fail .nodeContent t.start (if block then .blockNode else .flowNode) since

/-- Reads the entries of a block sequence, up to its end. -/
def blockEntries (since : Mark) : Nat → Grammar Unit
  | 0 => pure ()
  | fuel + 1 => do
    let t ← peek
    match t.kind with
    | .blockEntry => do
      drop
      if endsBlockEntry (← peek).kind then absent t.stop else node true false fuel
      blockEntries since fuel
    | .blockEnd => do
      note .sequenceEnd t.start
      drop
    | _ => fail .dash t.start .blockCollection since

/-- Reads the entries of a sequence that is not indented, up to what is no entry. -/
def unindentedEntries : Nat → Grammar Unit
  | 0 => pure ()
  | fuel + 1 => do
    let t ← peek
    match t.kind with
    | .blockEntry => do
      drop
      if endsPlainEntry (← peek).kind then absent t.stop else node true false fuel
      unindentedEntries fuel
    | _ => note .sequenceEnd t.start

/-- Reads the pairs of a block mapping, up to its end. -/
def blockPairs (since : Mark) : Nat → Grammar Unit
  | 0 => pure ()
  | fuel + 1 => do
    let t ← peek
    match t.kind with
    | .key => do
      drop
      if endsBlockPair (← peek).kind then absent t.stop else node true true fuel
      blockValue fuel
      blockPairs since fuel
    | .blockEnd => do
      note .mappingEnd t.start
      drop
    | _ => fail .key t.start .blockMapping since

/-- Reads the value of a pair of a block mapping. -/
def blockValue : Nat → Grammar Unit
  | 0 => pure ()
  | fuel + 1 => do
    let t ← peek
    match t.kind with
    | .value => do
      drop
      if endsBlockPair (← peek).kind then absent t.stop else node true true fuel
    | _ => absent t.start

/-- Reads the items of a flow sequence, up to its end. -/
def flowItems (since : Mark) (first : Bool) : Nat → Grammar Unit
  | 0 => pure ()
  | fuel + 1 => do
    let t ← peek
    if t.kind == .flowSequenceEnd then
      note .sequenceEnd t.start
      drop
    else
      unless first do
        if t.kind == .flowEntry then drop
        else fail .commaOrBracket t.start .flowSequence since
      let t ← peek
      match t.kind with
      | .flowSequenceEnd => do
        note .sequenceEnd t.start
        drop
      | .key => do
        note (.mappingStart .none) t.start
        drop
        singlePair fuel
        flowItems since false fuel
      | _ => do
        node false false fuel
        flowItems since false fuel

/-- Reads a mapping of one pair that stands as an item of a flow sequence. A
token that leaves no room for the key is passed over. -/
def singlePair : Nat → Grammar Unit
  | 0 => pure ()
  | fuel + 1 => do
    let t ← peek
    match t.kind with
    | .value | .flowEntry | .flowSequenceEnd => do
      drop
      absent t.stop
    | _ => node false false fuel
    let t ← peek
    if t.kind == .value then
      drop
      let t ← peek
      match t.kind with
      | .flowEntry | .flowSequenceEnd => absent t.start
      | _ => node false false fuel
    else absent t.start
    note .mappingEnd (← peek).start

/-- Reads the pairs of a flow mapping, up to its end. -/
def flowPairs (since : Mark) (first : Bool) : Nat → Grammar Unit
  | 0 => pure ()
  | fuel + 1 => do
    let t ← peek
    if t.kind == .flowMappingEnd then
      note .mappingEnd t.start
      drop
    else
      unless first do
        if t.kind == .flowEntry then drop
        else fail .commaOrBrace t.start .flowMapping since
      let t ← peek
      match t.kind with
      | .flowMappingEnd => do
        note .mappingEnd t.start
        drop
      | .key => do
        drop
        let t ← peek
        match t.kind with
        | .value | .flowEntry | .flowMappingEnd => absent t.start
        | _ => node false false fuel
        flowValue fuel
        flowPairs since false fuel
      | _ => do
        node false false fuel
        absent (← peek).start
        flowPairs since false fuel

/-- Reads the value of a pair of a flow mapping. -/
def flowValue : Nat → Grammar Unit
  | 0 => pure ()
  | fuel + 1 => do
    let t ← peek
    if t.kind == .value then
      drop
      let t ← peek
      match t.kind with
      | .flowEntry | .flowMappingEnd => absent t.start
      | _ => node false false fuel
    else absent t.start

end

/-! ## Documents -/

/-- The handles that every document knows. -/
def standardHandles : List (String × String) := [("!", "!"), ("!!", "tag:yaml.org,2002:")]

/-- Reads the directives before a document. -/
def directives (versioned : Bool) : Nat → Grammar Unit
  | 0 => pure ()
  | fuel + 1 => do
    let t ← peek
    match t.kind with
    | .versionDirective major minor => do
      if versioned then throw (.form .duplicateVersion t.start none)
      if major != 1 || (minor != 1 && minor != 2) then
        throw (.form .incompatibleVersion t.start none)
      drop
      directives true fuel
    | .tagDirective handle lead => do
      if (← get).handles.any fun p => p.1 == handle then
        throw (.form .duplicateHandle t.start none)
      modify fun r => { r with handles := r.handles ++ [(handle, lead)] }
      drop
      directives versioned fuel
    | _ => pure ()

/-- The token kinds that end a document before its node. -/
def endsDocument : TokenKind → Bool
  | .versionDirective _ _ | .tagDirective _ _ | .documentStart | .documentEnd | .streamEnd => true
  | _ => false

/-- Reads the end of a document. -/
def documentEnd : Grammar Unit := do
  let t ← peek
  if t.kind == .documentEnd then drop
  note .documentEnd t.start

/-- Skips marks of the end of a document that end none. -/
def strayEnds : Nat → Grammar Unit
  | 0 => pure ()
  | fuel + 1 => do
    if (← peek).kind == .documentEnd then
      drop
      strayEnds fuel

/-- Reads the documents of a stream. Only the first may begin without a mark. -/
def documents (first : Bool) (size : Nat) : Nat → Grammar Unit
  | 0 => pure ()
  | fuel + 1 => do
    unless first do strayEnds size
    let t ← peek
    modify fun r => { r with handles := [] }
    if t.kind == .streamEnd then note .streamEnd t.start
    else if first && !endsDocument t.kind || first && t.kind == .documentEnd then
      modify fun r => { r with handles := standardHandles }
      note .documentStart t.start
      node true false size
      documentEnd
      documents false size fuel
    else
      directives false size
      modify fun r =>
        { r with handles := r.handles ++ standardHandles.filter fun p =>
            !r.handles.any fun q => q.1 == p.1 }
      let start ← peek
      if start.kind != .documentStart then throw (.form .documentStart start.start none)
      note .documentStart t.start
      drop
      let t ← peek
      if endsDocument t.kind then absent t.start else node true false size
      documentEnd
      documents false size fuel

/-- Reads a whole stream. -/
def stream (size : Nat) : Grammar Unit := do
  discard peek
  drop
  documents true size size

end Grammar

namespace Events

/-- The events of a text up to its first fault, and that fault. -/
def ofText (text : List Char) : List Placed × Option Fault :=
  let (tokens, fault) := Tokens.ofText text
  let size := 4 * tokens.length + 8
  match (Grammar.stream size).run ⟨tokens, fault, [], []⟩ with
  | .ok _ r => (r.noted.reverse, none)
  | .error f r => (r.noted.reverse, some f)

end Events

end Yaml

end DeployLint
