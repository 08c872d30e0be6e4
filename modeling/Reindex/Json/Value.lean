import Reindex.Data.Keyed

/-!
# JSON values

A number is an exact integer or a 64-bit float.  An object is the list of its members with strictly
increasing names, so two objects with the same members are the same value and printing needs no
choice.
-/

namespace Reindex

/-- A number of a JSON text. -/
inductive Number where
  | int (value : Int)
  | float (value : Float)
  deriving DecidableEq, Repr

/-- A JSON value. -/
inductive Json where
  | null
  | bool (value : Bool)
  | number (value : Number)
  | string (value : String)
  | array (items : List Json)
  | object (members : List (String × Json))
  deriving Repr, BEq, Inhabited

namespace Json

/-- The members of an object, by increasing name. -/
abbrev Members := Keyed Json

/-- The object written as `pairs`. -/
def ofPairs (pairs : List (String × Json)) : Json := .object (Keyed.ofPairs pairs)

/-- The natural number `n`. -/
def nat (n : Nat) : Json := .number (.int n)

/-- The member called `name`, if the value is an object that has one. -/
def field? (name : String) : Json → Option Json
  | .object ms => Keyed.get? name ms
  | _ => none

/-- The text of a string value. -/
def asString? : Json → Option String
  | .string s => some s
  | _ => none

/-- The truth value of a boolean. -/
def asBool? : Json → Option Bool
  | .bool b => some b
  | _ => none

/-- The number, if it is an integer that is not negative.  A float never counts as one. -/
def asNat? : Json → Option Nat
  | .number (.int n) => n.toNat?
  | _ => none

/-- The elements of an array. -/
def asArray? : Json → Option (List Json)
  | .array xs => some xs
  | _ => none

/-- Is the value an object? -/
def isObject : Json → Bool
  | .object _ => true
  | _ => false

end Json

end Reindex
