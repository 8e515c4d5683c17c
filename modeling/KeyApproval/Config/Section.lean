import KeyApproval.Text.Quoted
import KeyApproval.Toml.Writer

/-!
# Sections of a configuration

Reading a table whose fields are known. Every field may be missing, none may be unknown, and each must hold
a value of its kind. An array stands for the values of the fields in order. The first fault is reported, and
where it is.
-/

namespace KeyApproval.Config

open Toml

/-! ### Fields -/

/-- How a value is called in reports. -/
def describe : Value → String
  | .string s => "string " ++ Text.Quoted.quote s
  | .integer i => "integer `" ++ toString i ++ "`"
  | .float .nan => "floating point `NaN`"
  | .float x => "floating point `" ++ x.text ++ "`"
  | .boolean b => "boolean `" ++ (if b then "true" else "false") ++ "`"
  | .datetime d => "string " ++ Text.Quoted.quote d.render
  | .array _ => "sequence"
  | .table _ => "map"

def wrongType {α : Type} (v : Value) (expected : String) : Except String α :=
  .error ("invalid type: " ++ describe v ++ ", expected " ++ expected)

/-- A date or time counts as its text. -/
def readText : Value → Except String String
  | .string s => .ok s
  | .datetime d => .ok d.render
  | v => wrongType v "a string"

def readBoolean : Value → Except String Bool
  | .boolean b => .ok b
  | v => wrongType v "a boolean"

/-- Reads a number that fits into so many bits. -/
def readNatural (bits : Nat) : Value → Except String Nat
  | .integer i =>
    if 0 ≤ i ∧ i.toNat < Decimal.twoTo bits then .ok i.toNat
    else .error ("invalid value: integer `" ++ toString i ++ s!"`, expected u{bits}")
  | v => wrongType v s!"u{bits}"

/-- A field of a section, and how its value is filled in. -/
structure Field (σ : Type) where
  name : String
  fill : Value → σ → Except String σ

/-! ### Sections -/

variable {σ : Type}

/-- The names of the fields as they are listed in reports. -/
def listNames (fields : List (Field σ)) : String :=
  let names := fields.map fun f => "`" ++ f.name ++ "`"
  match names with
  | [first, second] => first ++ " or " ++ second
  | names => "one of " ++ ", ".intercalate names

def fillEntry (fields : List (Field σ)) (s : σ) : String × Value → Except String σ
  | (key, value) =>
    match fields.find? (·.name == key) with
    | none => .error ("unknown field `" ++ key ++ "`, expected " ++ listNames fields)
    | some f => (f.fill value s).mapError (· ++ "\nin `" ++ key ++ "`")

def fillItems (fields : List (Field σ)) (items : List Value) (s : σ) : Except String σ := do
  let s ← (fields.zip items).foldlM (fun s (f, value) => f.fill value s) s
  if fields.length < items.length then
    throw s!"invalid length {items.length}, expected fewer elements in array"
  return s

def readSection (name : String) (fields : List (Field σ)) (unset : σ) : Value → Except String σ
  | .table entries => entries.foldlM (fillEntry fields) unset
  | .array items => fillItems fields items unset
  | v => wrongType v ("struct " ++ name)

end KeyApproval.Config
