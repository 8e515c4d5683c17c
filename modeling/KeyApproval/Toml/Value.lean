import KeyApproval.Decimal.Binary64

/-!
# TOML values

A document is a table. Tables hold their entries in the order of their keys.
-/

namespace KeyApproval.Toml

structure Date where
  year : Nat
  month : Nat
  day : Nat
  deriving DecidableEq

structure Time where
  hour : Nat
  minute : Nat
  second : Nat
  nanosecond : Nat
  deriving DecidableEq

inductive Offset where
  | zulu
  /-- Minutes east of Greenwich. -/
  | minutes (n : Int)
  deriving DecidableEq

/-- A date, a time, or both, the latter possibly with an offset. -/
structure Datetime where
  date : Option Date
  time : Option Time
  offset : Option Offset
  deriving DecidableEq

inductive Value where
  | string (s : String)
  | integer (i : Int)
  | float (x : Decimal.Binary64)
  | boolean (b : Bool)
  | datetime (d : Datetime)
  | array (items : List Value)
  | table (entries : List (String × Value))

abbrev Table := List (String × Value)

def Value.typeName : Value → String
  | string _ => "string"
  | integer _ => "integer"
  | float _ => "float"
  | boolean _ => "boolean"
  | datetime _ => "datetime"
  | array _ => "array"
  | table _ => "table"

namespace Table

def get? (t : Table) (key : String) : Option Value := (t.find? (·.1 == key)).map (·.2)

/-- Puts an entry in its place, before those with greater keys; an entry of the same key is replaced. -/
def insert (key : String) (value : Value) : Table → Table
  | [] => [(key, value)]
  | (k, v) :: rest =>
    if key = k then (key, value) :: rest
    else if key < k then (key, value) :: (k, v) :: rest
    else (k, v) :: insert key value rest

def keys (t : Table) : List String := t.map (·.1)

end Table

end KeyApproval.Toml
