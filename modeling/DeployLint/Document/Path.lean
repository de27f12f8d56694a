/-!
# Document — paths

A path leads from the root of a document to one of its nodes, through keys
of mappings and positions of sequences.
-/

namespace DeployLint

/-- One step of a path. -/
inductive Segment where
  | key (name : String)
  | index (position : Nat)
deriving DecidableEq, Repr

/-- The steps from the root to a node. -/
structure Path where
  segments : List Segment
deriving DecidableEq, Repr

namespace Path

/-- The path of the root itself. -/
def root : Path := ⟨[]⟩

/-- The path through a chain of keys. -/
def ofKeys (names : List String) : Path := ⟨names.map .key⟩

/-- The path one step further. -/
def child (p : Path) (s : Segment) : Path := ⟨p.segments ++ [s]⟩

/-- The path one key further. -/
def key (p : Path) (name : String) : Path := p.child (.key name)

/-- The path one position further. -/
def index (p : Path) (position : Nat) : Path := p.child (.index position)

def isRoot (p : Path) : Bool := p.segments.isEmpty

/-- The number of steps. -/
def depth (p : Path) : Nat := p.segments.length

/-- The key that the path ends in, if its last step is one. -/
def lastKey? (p : Path) : Option String :=
  match p.segments.getLast? with
  | some (.key name) => some name
  | _ => none

/-- The text of a step that is not the first. -/
def stepText : Segment → String
  | .key name => "." ++ name
  | .index position => "[" ++ toString position ++ "]"

/-- The text of a path: a point for the root; else its steps in order, keys
behind a point unless they come first, positions in brackets. -/
def text (p : Path) : String :=
  match p.segments with
  | [] => "."
  | .key name :: rest => name ++ String.join (rest.map stepText)
  | .index position :: rest => String.join ((Segment.index position :: rest).map stepText)

instance : ToString Path := ⟨text⟩

@[simp] theorem depth_child (p : Path) (s : Segment) : (p.child s).depth = p.depth + 1 := by
  simp [depth, child]

end Path

end DeployLint
