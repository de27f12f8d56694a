/-!
# Fields — finite maps from names

A finite map is the list of its pairs in ascending order of the names, by
code points. Every map of the library is built by `insert` from the empty
one, which keeps that order, so two maps with the same pairs are equal. A
set of names is a map that says nothing of them.
-/

namespace DeployLint

/-- Names with values, in ascending order of the names. -/
abbrev Fields (α : Type) := List (String × α)

namespace Fields

variable {α : Type}

/-- Sets a name to a value, in place of an earlier value of that name. -/
def insert (name : String) (value : α) : Fields α → Fields α
  | [] => [(name, value)]
  | (n, v) :: rest =>
    if name < n then (name, value) :: (n, v) :: rest
    else if name = n then (name, value) :: rest
    else (n, v) :: insert name value rest

/-- The value of a name. -/
def get? (name : String) : Fields α → Option α
  | [] => none
  | (n, v) :: rest => if name = n then some v else get? name rest

/-- The names, in ascending order. -/
def names (fields : Fields α) : List String := fields.map (·.1)

/-- The map of a list of pairs in any order; the last pair of a name decides. -/
def ofPairs (pairs : List (String × α)) : Fields α :=
  pairs.foldl (fun fields p => insert p.1 p.2 fields) []

/-- What was set last is what is found. -/
@[simp] theorem get?_insert_self (name : String) (value : α) (fields : Fields α) :
    (fields.insert name value).get? name = some value := by
  induction fields with
  | nil => simp [insert, get?]
  | cons p rest ih =>
    obtain ⟨n, v⟩ := p
    simp only [insert]
    split
    · simp [get?]
    · split
      · simp [get?]
      · rename_i h
        simp [get?, h, ih]

/-- Setting one name leaves the others as they are. -/
theorem get?_insert_of_ne {name other : String} (h : other ≠ name) (value : α)
    (fields : Fields α) : (fields.insert name value).get? other = fields.get? other := by
  induction fields with
  | nil => simp [insert, get?, h]
  | cons p rest ih =>
    obtain ⟨n, v⟩ := p
    simp only [insert]
    split
    · simp [get?, h]
    · split
      · rename_i heq
        subst heq
        simp [get?, h]
      · simp only [get?, ih]

end Fields

/-- A set of names, as the list of them in ascending order. -/
abbrev NameSet := Fields Unit

namespace NameSet

def add (name : String) (set : NameSet) : NameSet := Fields.insert name () set

def has (set : NameSet) (name : String) : Bool := (Fields.get? name set).isSome

/-- The set of the names of a list. -/
def ofList (names : List String) : NameSet := names.foldl (fun set name => set.add name) []

def toList (set : NameSet) : List String := Fields.names set

end NameSet

end DeployLint
