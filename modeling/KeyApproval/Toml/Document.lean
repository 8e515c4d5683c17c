import KeyApproval.Toml.Reader

/-!
# Building TOML documents

Statements are put together into tables. A table remembers how it came about, because that decides what
may still be added to it: a table that a longer header implies may get its own header later, one that
dotted keys made may grow by dotted keys only, and one that is written in full is closed.
-/

namespace KeyApproval.Toml

inductive Origin where
  /-- By a header, or by braces. -/
  | declared
  /-- By the header of a table below it. -/
  | implied
  /-- By dotted keys. -/
  | dotted
  deriving DecidableEq

/-- A table in the making, its entries in the order of their keys. -/
inductive Node where
  | value (v : Value)
  | table (origin : Origin) (entries : List (String × Node))
  /-- Tables under one header, the last first. -/
  | tables (items : List (List (String × Node)))

abbrev Entries := List (String × Node)

namespace Entries

def get? (t : Entries) (key : String) : Option Node := (t.find? (·.1 == key)).map (·.2)

def insert (key : String) (node : Node) : Entries → Entries
  | [] => [(key, node)]
  | (k, n) :: rest =>
    if key = k then (key, node) :: rest
    else if key < k then (key, node) :: (k, n) :: rest
    else (k, n) :: insert key node rest

end Entries

/-! ### Finished tables -/

mutual

def Node.toValue : Node → Value
  | .value v => v
  | .table _ entries => .table (entriesToTable entries)
  | .tables items => .array (itemsToValues items [])

def entriesToTable : List (String × Node) → Table
  | [] => []
  | (key, node) :: rest => (key, node.toValue) :: entriesToTable rest

/-- The tables in the order in which they were written. -/
def itemsToValues : List (List (String × Node)) → List Value → List Value
  | [], done => done
  | item :: rest, done => itemsToValues rest (.table (entriesToTable item) :: done)

end

/-! ### Assignments -/

/-- Puts a node below dotted keys. They may lead through tables that were not declared themselves, and
must end in one that dotted keys have made. -/
def assign (key : String) (node : Node) : (path : List String) → Entries → Option Entries
  | [], t => if (t.get? key).isSome then none else some (t.insert key node)
  | first :: path, t =>
    match t.get? first with
    | none => (assign key node path []).map fun inner => t.insert first (.table .dotted inner)
    | some (.table origin entries) =>
      if origin = .dotted ∨ (origin = .implied ∧ path ≠ []) then
        (assign key node path entries).map fun inner => t.insert first (.table origin inner)
      else none
    | some (.tables (last :: rest)) =>
      if path = [] then none
      else (assign key node path last).map fun inner => t.insert first (.tables (inner :: rest))
    | some _ => none

/-- Puts a node below a path of keys, the last of which names it. -/
def assignPath (path : List String) (node : Node) (t : Entries) : Option Entries :=
  match path.getLast? with
  | none => none
  | some key => assign key node path.dropLast t

mutual

/-- The node of a literal; the entries of an inline table must fit together. -/
def Literal.toNode? : Literal → Option Node
  | .scalar v => some (.value v)
  | .array items => (itemsToNodes? items).map fun values => .value (.array values)
  | .inline entries => (buildInline? entries []).map fun t => .value (.table (entriesToTable t))

def itemsToNodes? : List Literal → Option (List Value)
  | [] => some []
  | item :: rest => do
    let node ← item.toNode?
    let others ← itemsToNodes? rest
    some (node.toValue :: others)

def buildInline? : List (List String × Literal) → Entries → Option Entries
  | [], t => some t
  | (path, literal) :: rest, t => do
    let node ← literal.toNode?
    let t ← assignPath path node t
    buildInline? rest t

end

/-! ### Headers -/

/-- Changes the table at the end of a path. Missing tables are implied, and of tables under one header
the last is meant. -/
def modifyAt (change : Entries → Option Entries) : (path : List String) → Entries → Option Entries
  | [], t => change t
  | first :: path, t =>
    match t.get? first with
    | none => (modifyAt change path []).map fun inner => t.insert first (.table .implied inner)
    | some (.table origin entries) =>
      (modifyAt change path entries).map fun inner => t.insert first (.table origin inner)
    | some (.tables (last :: rest)) =>
      (modifyAt change path last).map fun inner => t.insert first (.tables (inner :: rest))
    | some _ => none

/-- A document in the making: the tables that are done, and the one whose lines are being read. -/
structure Draft where
  root : Entries
  path : List String
  isArray : Bool
  current : Entries

def Draft.empty : Draft := ⟨[], [], false, []⟩

def Draft.close (d : Draft) : Option Entries :=
  match d.path.getLast? with
  | none => some d.current
  | some key =>
    modifyAt (fun t =>
      match d.isArray, t.get? key with
      | true, none => some (t.insert key (.tables [d.current]))
      | true, some (.tables items) => some (t.insert key (.tables (d.current :: items)))
      | false, none => some (t.insert key (.table .declared d.current))
      | _, some _ => none) d.path.dropLast d.root

/-- The entries that a header continues: none, or those of a table that was only implied so far. -/
def openAt (key : String) (t : Entries) : Option Entries :=
  match t.get? key with
  | none => some []
  | some (.table .implied entries) => some entries
  | some _ => none

def findAt : (path : List String) → Entries → Option Entries
  | [], t => some t
  | first :: path, t =>
    match t.get? first with
    | none => some []
    | some (.table _ entries) => findAt path entries
    | some (.tables (last :: _)) => findAt path last
    | some _ => none

def Draft.openHeader (d : Draft) (path : List String) : Option Draft := do
  let root ← d.close
  let key ← path.getLast?
  let parent ← findAt path.dropLast root
  let entries ← openAt key parent
  let root ← modifyAt (fun t => some (t.filter (·.1 != key))) path.dropLast root
  some ⟨root, path, false, entries⟩

def Draft.openArray (d : Draft) (path : List String) : Option Draft := do
  let root ← d.close
  let key ← path.getLast?
  let parent ← findAt path.dropLast root
  match parent.get? key with
  | none | some (.tables _) => some ⟨root, path, true, []⟩
  | some _ => none

def Draft.add (d : Draft) : Statement → Option Draft
  | .assign path literal => do
    let node ← literal.toNode?
    let current ← assignPath path node d.current
    some { d with current }
  | .header path => d.openHeader path
  | .arrayHeader path => d.openArray path

def buildDocument? (statements : List Statement) : Option Table := do
  let draft ← statements.foldlM Draft.add Draft.empty
  let root ← draft.close
  some (entriesToTable root)

def Table.parse? (text : String) : Option Table := (readDocument? text.toList).bind buildDocument?

end KeyApproval.Toml
