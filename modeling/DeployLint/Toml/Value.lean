/-!
# TOML — values

The values of a configuration text, and the tree in which its tables are
put together. A table remembers how it came to be, since that decides what
may still be added to it: a header names a table once, and dotted keys only
extend tables that dotted keys have made.
-/

namespace DeployLint

/-- A TOML value. -/
inductive Toml where
  | string (value : String)
  | integer (value : Int)
  | float (value : Float)
  | boolean (value : Bool)
  /-- A date, a time or both. -/
  | moment (text : String)
  | array (items : List Toml)
  | table (entries : List (String × Toml))

namespace Toml

/-- Why a text is no TOML. -/
inductive Fault where
  | malformed
  | repeatedKey (key : String)
  | tooDeep
deriving DecidableEq, Repr

def Fault.message : Fault → String
  | malformed => "malformed TOML"
  | repeatedKey key => "key is set twice: " ++ key
  | tooDeep => "nested too deeply"

/-! ## Tables in the making -/

/-- How a table came to be. -/
inductive Origin where
  /-- By a header of its own, or as the table of the whole text. -/
  | header
  /-- As a part of the way to a header. -/
  | implied
  /-- By a dotted key. -/
  | dotted
deriving DecidableEq, Repr

/-- A value, a table or a list of tables that is still being put together. -/
inductive Node where
  | value (value : Toml)
  | table (origin : Origin) (entries : List (String × Node))
  /-- Tables of one header, the last one first. -/
  | tables (last : List (String × Node)) (before : List Node)

/-- The entries of a table in the making. -/
abbrev Entries := List (String × Node)

namespace Entries

/-- Puts a node at a key, in place of an earlier one. -/
def set (key : String) (node : Node) : Entries → Entries
  | [] => [(key, node)]
  | (k, n) :: rest => if k = key then (k, node) :: rest else (k, n) :: set key node rest

end Entries

/-- Changes the table that a chain of keys leads to, making those on the way
that are missing. Of a list of tables the way leads through the last one.
Dotted keys do not lead through a table that has a header. -/
def descend (dotted : Bool) (change : Origin → Entries → Except Fault Entries)
    (origin : Origin) (entries : Entries) : List String → Except Fault Entries
  | [] => change origin entries
  | key :: keys =>
    match entries.lookup key with
    | none => do
      let made : Origin := if dotted then .dotted else .implied
      let inner ← descend dotted change made [] keys
      pure (Entries.set key (.table made inner) entries)
    | some (.value _) => .error (.repeatedKey key)
    | some (.table origin inner) =>
      if dotted && origin == .header then .error (.repeatedKey key)
      else do
        let inner ← descend dotted change origin inner keys
        pure (Entries.set key (.table origin inner) entries)
    | some (.tables last before) => do
      let last ← descend dotted change .header last keys
      pure (Entries.set key (.tables last before) entries)

/-- Sets a key of a table, by way of the keys before it. -/
def assign (before : List String) (key : String) (value : Toml) (origin : Origin)
    (entries : Entries) : Except Fault Entries :=
  descend true
    (fun origin entries =>
      if (origin == .dotted) == before.isEmpty || (entries.lookup key).isSome then
        .error (.repeatedKey key)
      else .ok (entries ++ [(key, .value value)]))
    origin entries before

/-- Opens the table of a header. -/
def openTable (before : List String) (key : String) (root : Entries) : Except Fault Entries :=
  descend false
    (fun _ entries =>
      match entries.lookup key with
      | none => .ok (entries ++ [(key, .table .header [])])
      | some (.table .implied inner) => .ok (Entries.set key (.table .header inner) entries)
      | some _ => .error (.repeatedKey key))
    .header root before

/-- Opens one more table of a list. -/
def openListed (before : List String) (key : String) (root : Entries) : Except Fault Entries :=
  descend false
    (fun _ entries =>
      match entries.lookup key with
      | none => .ok (entries ++ [(key, .tables [] [])])
      | some (.tables last before) =>
        .ok (Entries.set key (.tables [] (.table .header last :: before)) entries)
      | some _ => .error (.repeatedKey key))
    .header root before

mutual

/-- The value of a node that is put together. -/
def Node.finish : Node → Toml
  | .value value => value
  | .table _ entries => .table (finishEntries entries)
  | .tables last before => .array ((.table (finishEntries last) :: finishNodes before).reverse)

def finishEntries : List (String × Node) → List (String × Toml)
  | [] => []
  | (key, node) :: rest => (key, node.finish) :: finishEntries rest

def finishNodes : List Node → List Toml
  | [] => []
  | node :: rest => node.finish :: finishNodes rest

end

/-! ## Looking inside -/

/-- The value of a key of a table. -/
def get? (t : Toml) (key : String) : Option Toml :=
  match t with
  | .table entries => entries.lookup key
  | _ => none

end Toml

end DeployLint
