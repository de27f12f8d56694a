import DeployLint.Document.Basic
import DeployLint.Notice

/-!
# Document — walking a tree

The nodes of a document come in one order: a node before what it holds,
mapping values in the order of their keys, sequence items in order. A walk
takes a depth limit and meets the nodes down to that depth; below it, it
meets only the place where the limit cut it off.

`meetings` lists what a walk meets, `nodes` the nodes among it, and `walk`
runs a visitor over the tree that may end the walk at any node.
-/

namespace DeployLint

/-- What a walk meets. -/
inductive Meeting where
  /-- A node within the limit. -/
  | node (path : Path) (document : Document)
  /-- A place where the tree goes on below the limit. -/
  | cutOff (path : Path)

namespace Meeting

def node? : Meeting → Option (Path × Document)
  | node path document => some (path, document)
  | cutOff _ => none

def cutOff? : Meeting → Option Path
  | node _ _ => none
  | cutOff path => some path

end Meeting

namespace Document

mutual

/-- What a walk meets from a node at a given path. -/
def meetingsFrom (limit : Nat) (path : Path) : Document → List Meeting
  | .scalar value =>
    if limit < path.depth then [.cutOff path] else [.node path (.scalar value)]
  | .sequence items =>
    if limit < path.depth then [.cutOff path]
    else .node path (.sequence items) :: itemMeetings limit path 0 items
  | .mapping fields =>
    if limit < path.depth then [.cutOff path]
    else .node path (.mapping fields) :: fieldMeetings limit path fields

/-- What a walk meets in the items of a sequence, from a given position on. -/
def itemMeetings (limit : Nat) (path : Path) (position : Nat) : List Document → List Meeting
  | [] => []
  | d :: ds =>
    meetingsFrom limit (path.index position) d ++ itemMeetings limit path (position + 1) ds

/-- What a walk meets in the fields of a mapping. -/
def fieldMeetings (limit : Nat) (path : Path) : List (String × Document) → List Meeting
  | [] => []
  | (name, d) :: ds => meetingsFrom limit (path.key name) d ++ fieldMeetings limit path ds

end

/-- What a walk from the root meets, in order. -/
def meetings (d : Document) (limit : Nat) : List Meeting := d.meetingsFrom limit .root

/-- The nodes down to a depth, each with its path, in the order of a walk. -/
def nodes (d : Document) (limit : Nat) : List (Path × Document) :=
  (d.meetings limit).filterMap Meeting.node?

/-- What a walk tells that ends at the first node of a kind: the places where
the limit cuts it off before that node. -/
def walkNotices (d : Document) (limit : Nat) (halts : Path → Document → Bool) : List Notice :=
  let before := (d.meetings limit).takeWhile fun m =>
    match m with
    | .node path document => !halts path document
    | .cutOff _ => true
  (before.filterMap Meeting.cutOff?).map fun path =>
    .debug s!"Depth limit {limit} reached at {path.text}"

end Document

/-! ## Visitors -/

/-- What a visitor answers at a node: its state, and whether the walk goes on. -/
inductive Progress (σ : Type) where
  | goOn (state : σ)
  | halt (state : σ)
deriving Repr

namespace Progress

variable {σ : Type}

def state : Progress σ → σ
  | goOn s => s
  | halt s => s

def isHalt : Progress σ → Bool
  | goOn _ => false
  | halt _ => true

/-- Goes on from where the walk stands, unless it has ended. -/
def andThen (p : Progress σ) (next : σ → Progress σ) : Progress σ :=
  match p with
  | goOn s => next s
  | halt s => halt s

end Progress

namespace Document

variable {σ : Type}

mutual

/-- Runs a visitor over a node at a given path and over what it holds. -/
def walkFrom (limit : Nat) (visit : Path → Document → σ → Progress σ) (path : Path) :
    Document → σ → Progress σ
  | .scalar value, s => if limit < path.depth then .goOn s else visit path (.scalar value) s
  | .sequence items, s =>
    if limit < path.depth then .goOn s
    else (visit path (.sequence items) s).andThen (walkItems limit visit path 0 items)
  | .mapping fields, s =>
    if limit < path.depth then .goOn s
    else (visit path (.mapping fields) s).andThen (walkFields limit visit path fields)

/-- Runs a visitor over the items of a sequence, from a given position on. -/
def walkItems (limit : Nat) (visit : Path → Document → σ → Progress σ) (path : Path)
    (position : Nat) : List Document → σ → Progress σ
  | [], s => .goOn s
  | d :: ds, s =>
    (walkFrom limit visit (path.index position) d s).andThen
      (walkItems limit visit path (position + 1) ds)

/-- Runs a visitor over the fields of a mapping. -/
def walkFields (limit : Nat) (visit : Path → Document → σ → Progress σ) (path : Path) :
    List (String × Document) → σ → Progress σ
  | [], s => .goOn s
  | (name, d) :: ds, s =>
    (walkFrom limit visit (path.key name) d s).andThen (walkFields limit visit path ds)

end

/-- Runs a visitor over the nodes down to a depth, in order, until it ends the walk. -/
def walk (d : Document) (limit : Nat) (visit : Path → Document → σ → Progress σ) (s : σ) :
    Progress σ :=
  walkFrom limit visit .root d s

end Document

end DeployLint
