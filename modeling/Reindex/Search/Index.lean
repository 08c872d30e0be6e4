import Reindex.Json.Value

/-!
# The target index

Its name, and the settings and mappings that it is created with.
-/

namespace Reindex.Search

/-- An index to be created. -/
structure IndexConfig where
  name : String
  body : Json
  deriving Repr, BEq

namespace IndexConfig

/-- A field of the given type in a mapping. -/
def mapped (type : String) : Json := Json.ofPairs [("type", .string type)]

/-- Titles are searched as text, years are integers, and names are matched as a whole. -/
def movieMapping : Json :=
  Json.ofPairs [("mappings", Json.ofPairs [("properties", Json.ofPairs
    [("title", mapped "text"), ("year", mapped "integer"), ("cast", mapped "keyword"),
      ("genres", mapped "keyword"), ("directors", mapped "keyword")])])]

/-- The name of the index if none is given. -/
def defaultName : String := "movies"

/-- An index of this name with the built-in mapping. -/
def movies (name : String) : IndexConfig := ⟨name, movieMapping⟩

end IndexConfig

end Reindex.Search
