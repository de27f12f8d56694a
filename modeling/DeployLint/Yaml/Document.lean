import DeployLint.Yaml.Scalar
import DeployLint.Json.Writer

/-!
# YAML — documents

A stream is a list of documents, each the events of one node. Aliases stand
for the node of their anchor, which is read again wherever one is met.
Reading a document stops at the first fault in the order of the text, and
nesting, like the repetition of nodes by aliases, has its limits.

`Yaml.readStream` reads all documents of a text, and `Yaml.read` a text that
is a single one.
-/

namespace DeployLint

namespace Yaml

/-! ## Nodes and their anchors -/

/-- The start of a node or the end of a collection, with aliases resolved:
an alias leads to a place among the parts of its document. -/
inductive Part where
  | repeated (place : Nat)
  | scalar (tag : Option String) (text : String) (style : ScalarStyle)
  | sequenceStart (tag : Option String)
  | sequenceEnd
  | mappingStart (tag : Option String)
  | mappingEnd
  /-- The node of a stream that holds none. -/
  | nothing

/-- A part, with the mark it begins at. -/
structure PlacedPart where
  part : Part
  mark : Mark

/-- The parts of a document up to its first fault of form, and that fault. -/
structure RawDocument where
  parts : Array PlacedPart
  fault : Option Fault

/-- The anchors of a document. An anchor has a slot, a slot leads to a place.
A new anchor takes the slot after as many as there are names, so that where
a name was given twice, the next new name shares its slot. -/
structure Anchors where
  slots : List (String × Nat) := []
  places : List (Nat × Nat) := []

namespace Anchors

/-- Gives a name to the node at a place. -/
def add (a : Anchors) (name : String) (place : Nat) : Anchors :=
  let slot := a.slots.length
  ⟨(name, slot) :: a.slots.filter (·.1 != name),
    (slot, place) :: a.places.filter (·.1 != slot)⟩

/-- Notes the anchor of a node, if it has one. -/
def note (a : Anchors) (anchor : Option String) (place : Nat) : Anchors :=
  match anchor with
  | some name => a.add name place
  | none => a

end Anchors

/-- A document that is being put together. -/
structure Draft where
  parts : Array PlacedPart := #[]
  anchors : Anchors := {}

namespace Draft

def push (d : Draft) (part : Part) (mark : Mark) : Draft :=
  { d with parts := d.parts.push ⟨part, mark⟩ }

/-- Adds the start of a node. -/
def node (d : Draft) (p : NodeProperties) (part : Part) (mark : Mark) : Draft :=
  { d with anchors := d.anchors.note p.anchor d.parts.size }.push part mark

/-- The document as far as it was put together. Aliases were noted with the
slot of their anchor; where it leads is known only now. -/
def finish (d : Draft) (fault : Option Fault) : RawDocument :=
  let resolve (p : PlacedPart) : PlacedPart :=
    match p.part with
    | .repeated slot => ⟨.repeated ((d.anchors.places.lookup slot).getD 0), p.mark⟩
    | _ => p
  ⟨d.parts.map resolve, fault⟩

end Draft

/-- The documents of a list of events. The flag tells whether one of them
was finished before. -/
def rawDocuments (fault : Option Fault) : Draft → Bool → List Placed → List RawDocument
  | d, finished, [] =>
    match fault with
    | some f => [d.finish (some f)]
    | none => if finished then [] else [d.finish none]
  | d, finished, ⟨event, mark⟩ :: rest =>
    match event with
    | .documentStart => rawDocuments fault d finished rest
    | .documentEnd => d.finish none :: rawDocuments fault {} true rest
    | .streamEnd => if finished then [] else [(d.push .nothing mark).finish none]
    | .reference name =>
      match d.anchors.slots.lookup name with
      | some slot => rawDocuments fault (d.push (.repeated slot) mark) finished rest
      | none => [d.finish (some (.unknownAnchor mark))]
    | .scalar p text style =>
      rawDocuments fault (d.node p (.scalar p.tag text style) mark) finished rest
    | .sequenceStart p => rawDocuments fault (d.node p (.sequenceStart p.tag) mark) finished rest
    | .sequenceEnd => rawDocuments fault (d.push .sequenceEnd mark) finished rest
    | .mappingStart p => rawDocuments fault (d.node p (.mappingStart p.tag) mark) finished rest
    | .mappingEnd => rawDocuments fault (d.push .mappingEnd mark) finished rest

/-! ## Trails -/

/-- The way to a node, as messages show it. -/
structure Trail where
  text : String
  isRoot : Bool

namespace Trail

def root : Trail := ⟨".", true⟩

/-- What comes before a further key. -/
def lead (t : Trail) : String := if t.isRoot then "" else t.text ++ "."

def item (t : Trail) (position : Nat) : Trail :=
  ⟨t.text ++ "[" ++ toString position ++ "]", false⟩

def key (t : Trail) (name : String) : Trail := ⟨t.lead ++ name, false⟩

/-- The way through a key that is not a scalar. -/
def unnamed (t : Trail) : Trail := ⟨t.lead ++ "?", false⟩

/-- The way through an alias. -/
def repeated (t : Trail) : Trail := { t with isRoot := false }

end Trail

/-! ## Values -/

/-- A reading of values: the count of repetitions is its state. -/
abbrev Compose (α : Type) := StateT Nat (Except Fault) α

/-- How often the nodes of a document may be repeated, for each of its parts. -/
def repetitionFactor : Nat := 100

/-- How deep collections may be nested. -/
def depthLimit : Nat := 128

namespace RawDocument

/-- The part at a place. Behind the last one there is the fault, or nothing. -/
def part (d : RawDocument) (place : Nat) : Compose PlacedPart :=
  match d.parts[place]?, d.fault with
  | some p, _ => pure p
  | none, some f => throw f
  | none, none => pure ⟨.nothing, .start⟩

/-- Counts one more repetition. -/
def countRepetition (d : RawDocument) : Compose Unit := do
  let count := (← get) + 1
  set count
  if repetitionFactor * d.parts.size < count then throw .tooManyRepetitions

/-- A fault of content at a node. -/
def atNode {α : Type} (mark : Mark) (trail : Trail) : Except ContentFault α → Compose α
  | .ok a => pure a
  | .error cause => throw (.content cause mark trail.text)

/-- A value under its private tag, if it has one. -/
def underTag (tag : Option String) (value : Value) : Value :=
  match privateTag? tag with
  | some name => .tagged name value
  | none => value

mutual

/-- Reads the node at a place: its value, and the place behind it. -/
def value (d : RawDocument) (levels : Nat) (trail : Trail) (place : Nat) :
    Nat → Compose (Value × Nat)
  | 0 => throw .tooManyRepetitions
  | fuel + 1 => do
    let ⟨part, mark⟩ ← d.part place
    match part with
    | .repeated target => do
      d.countRepetition
      let (v, _) ← value d levels trail.repeated target fuel
      pure (v, place + 1)
    | .scalar tag text style => do
      let v ← atNode mark trail (scalarValue tag text style)
      pure (v, place + 1)
    | .sequenceStart tag => do
      if levels = 0 then throw (.tooDeep mark)
      let (vs, after) ← items d (levels - 1) trail 0 (place + 1) fuel
      pure (underTag tag (.sequence vs), after)
    | .mappingStart tag => do
      if levels = 0 then throw (.tooDeep mark)
      let (ps, after) ← pairs d (levels - 1) trail mark [] (place + 1) fuel
      pure (underTag tag (.mapping ps), after)
    | .nothing | .sequenceEnd | .mappingEnd => pure (.null, place + 1)
termination_by structural fuel => fuel

/-- Reads the items of a sequence from a place on: their values, and the
place behind the end of the sequence. -/
def items (d : RawDocument) (levels : Nat) (trail : Trail) (position place : Nat) :
    Nat → Compose (List Value × Nat)
  | 0 => throw .tooManyRepetitions
  | fuel + 1 => do
    match (← d.part place).part with
    | .sequenceEnd | .nothing => pure ([], place + 1)
    | _ => do
      let (v, after) ← value d levels (trail.item position) place fuel
      let (vs, after) ← items d levels trail (position + 1) after fuel
      pure (v :: vs, after)
termination_by structural fuel => fuel

/-- Reads the pairs of a mapping from a place on, behind those read before.
A repeated key is a fault of the mapping. -/
def pairs (d : RawDocument) (levels : Nat) (trail : Trail) (mark : Mark)
    (before : List (Value × Value)) (place : Nat) : Nat → Compose (List (Value × Value) × Nat)
  | 0 => throw .tooManyRepetitions
  | fuel + 1 => do
    let first := (← d.part place).part
    match first with
    | .mappingEnd | .nothing => pure (before.reverse, place + 1)
    | _ => do
      let (k, after) ← value d levels trail place fuel
      if before.any fun p => p.1.same k then
        throw (.content (.repeatedKey k.asRepeatedKey) mark trail.text)
      let inner :=
        match first with
        | .scalar _ text _ => trail.key text
        | _ => trail.unnamed
      let (v, after) ← value d levels inner after fuel
      pairs d levels trail mark ((k, v) :: before) after fuel
termination_by structural fuel => fuel

end

/-- Reads the node of a document; then a fault of form behind it counts. -/
def compose (d : RawDocument) : Except Fault Value := do
  let fuel := (depthLimit + 2) * (d.parts.size + 3)
  let ((v, _), _) ← (d.value depthLimit .root 0 fuel).run 0
  match d.fault with
  | some f => throw f
  | none => pure v

end RawDocument

/-! ## Documents -/

mutual

/-- The document of a value. Tags are dropped, and keys become texts; where
two of them become the same text, the last one counts. -/
def Value.toDocument : Value → Document
  | .null => .null
  | .bool b => .scalar (.bool b)
  | .int n => .scalar (.ofInt n)
  | .float x => .scalar (.float x)
  | .string s => .string s
  | .sequence vs => .sequence (Value.toDocuments vs)
  | .mapping ps => .mapping (Fields.ofPairs (Value.toFields ps))
  | .tagged _ v => v.toDocument

def Value.toDocuments : List Value → List Document
  | [] => []
  | v :: vs => v.toDocument :: Value.toDocuments vs

/-- The fields of pairs, each key as the text that shows it. -/
def Value.toFields : List (Value × Value) → List (String × Document)
  | [] => []
  | (k, v) :: ps => (k.toDocument.text, v.toDocument) :: Value.toFields ps

end

/-- The raw documents of a text. There is always one at least. -/
def rawDocumentsOf (text : String) : List RawDocument :=
  let (events, fault) := Events.ofText text.toList
  rawDocuments fault {} false events

/-- Reads all documents of a text, up to the first fault. -/
def readStream (text : String) : Except Fault (List Document) :=
  (rawDocumentsOf text).mapM fun d => d.compose.map Value.toDocument

/-- Reads a text that is a single document. -/
def read (text : String) : Except Fault Document :=
  match rawDocumentsOf text with
  | [] => .ok .null
  | d :: rest =>
    match d.compose with
    | .error f => .error f
    | .ok v => if rest.isEmpty then .ok v.toDocument else .error .severalDocuments

end Yaml

end DeployLint
