import Reindex.Json.Reader

/-!
# Records

A record is a JSON object that is passed on as it is; only its title is ever looked at.  A dataset
is an array of records.
-/

namespace Reindex

/-- One record of a dataset. -/
structure Record where
  members : Json.Members
  deriving Repr, BEq, Inhabited

namespace Record

/-- The record as a JSON value. -/
def toJson (r : Record) : Json := .object r.members

/-- The value of a field. -/
def field? (name : String) (r : Record) : Option Json := Keyed.get? name r.members

/-- The title, if it is a string. -/
def title? (r : Record) : Option String := (r.field? "title").bind Json.asString?

/-- The record that a text holds. -/
def parse (text : Bytes) : Except Json.Error Record := (Json.parseMap text).map .mk

end Record

namespace Dataset

/-- The records that a text holds, or what is wrong with it. -/
def parse (text : Bytes) : Except String (List Record) :=
  match Json.parseMaps text with
  | .ok maps => .ok (maps.map .mk)
  | .error e => .error ("Dataset is not a JSON array of objects: " ++ e.message)

end Dataset

end Reindex
