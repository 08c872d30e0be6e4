/-!
# Lists of values by name

A list of named values with strictly increasing names is the one form of a finite map from names to
values.  Putting a value in and taking one out keep the form; of two values put in under one name
the last one stays.
-/

namespace Reindex

/-- Values by increasing name. -/
abbrev Keyed (α : Type) := List (String × α)

namespace Keyed

variable {α : Type}

/-- The value called `name`. -/
def get? (name : String) (m : Keyed α) : Option α := m.lookup name

/-- Gives `name` a value; an earlier one is dropped. -/
def insert (name : String) (value : α) : Keyed α → Keyed α
  | [] => [(name, value)]
  | (n, v) :: rest =>
    if name < n then (name, value) :: (n, v) :: rest
    else if name = n then (name, value) :: rest
    else (n, v) :: insert name value rest

/-- Takes the value called `name` out. -/
def erase (name : String) (m : Keyed α) : Keyed α := m.filter (·.1 != name)

/-- The map written as `pairs`, in reading order. -/
def ofPairs (pairs : List (String × α)) : Keyed α :=
  pairs.foldl (fun m p => insert p.1 p.2 m) []

end Keyed

end Reindex
