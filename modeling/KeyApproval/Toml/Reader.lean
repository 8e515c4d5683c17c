import KeyApproval.Text.Hex
import KeyApproval.Toml.Scalar

/-!
# Reading TOML

A document is read into its statements: assignments and table headers. Whatever breaks the grammar makes
the whole text unreadable, so the readers give nothing then. Inside of an inline table the assignments
are kept as they are; a `Builder` of the document puts them together.
-/

namespace KeyApproval.Toml

open Text

/-- A value as written. The entries of an inline table are not put together yet. -/
inductive Literal where
  | scalar (v : Value)
  | array (items : List Literal)
  | inline (entries : List (List String × Literal))

inductive Statement where
  | assign (path : List String) (value : Literal)
  | header (path : List String)
  | arrayHeader (path : List String)

/-- What was read and the text after it. -/
abbrev Found (α : Type) := α × List Char

/-! ### Blanks, comments and line ends -/

def isBlank (c : Char) : Bool := c == ' ' || c == '\t'

def skipBlank (s : List Char) : List Char := s.dropWhile isBlank

/-- Characters that may stand in strings and comments: the tab, and everything but control characters. -/
def isPlain (c : Char) : Bool := c == '\t' || (0x20 ≤ c.toNat && c.toNat != 0x7F)

def skipComment (s : List Char) : List Char :=
  match s with
  | '#' :: rest => rest.dropWhile isPlain
  | _ => s

def readLineEnd? : List Char → Option (List Char)
  | '\n' :: rest => some rest
  | '\r' :: '\n' :: rest => some rest
  | _ => none

/-- Passes over blanks, comments and line ends. -/
def skipLines : (inComment : Bool) → List Char → List Char
  | _, [] => []
  | _, '\n' :: rest => skipLines false rest
  | _, '\r' :: '\n' :: rest => skipLines false rest
  | false, c :: rest =>
    if isBlank c then skipLines false rest
    else if c == '#' then skipLines true rest
    else c :: rest
  | true, c :: rest => if isPlain c then skipLines true rest else c :: rest

/-! ### Strings -/

/-- The character whose number in base sixteen is given. -/
def charOfHex? (digits : List Char) (width : Nat) : Option Char :=
  if digits.length < width then none
  else do
    let values ← digits.mapM hexValue?
    let n := digitsValue 16 values
    if n.isValidChar then some (Char.ofNat n) else none

/-- Reads what follows a backslash: a character and the number of characters that it takes. -/
def readEscape? : List Char → Option (Char × Nat)
  | [] => none
  | c :: rest =>
    if c == 'b' then some ('\x08', 1)
    else if c == 't' then some ('\t', 1)
    else if c == 'n' then some ('\n', 1)
    else if c == 'f' then some ('\x0c', 1)
    else if c == 'r' then some ('\r', 1)
    else if c == 'e' then some ('\x1b', 1)
    else if c == '"' || c == '\\' then some (c, 1)
    else if c == 'x' then (charOfHex? (rest.take 2) 2).map (·, 3)
    else if c == 'u' then (charOfHex? (rest.take 4) 4).map (·, 5)
    else if c == 'U' then (charOfHex? (rest.take 8) 8).map (·, 9)
    else none

/-- Reads a string up to and with its closing quote, after passing over `skip` characters. -/
def readBasic? : (skip : Nat) → List Char → Option (Found (List Char))
  | _, [] => none
  | skip + 1, _ :: rest => readBasic? skip rest
  | 0, c :: rest =>
    if c == '"' then some ([], rest)
    else if c == '\\' then do
      let (d, width) ← readEscape? rest
      let (tail, after) ← readBasic? width rest
      some (d :: tail, after)
    else if isPlain c then do
      let (tail, after) ← readBasic? 0 rest
      some (c :: tail, after)
    else none

def readLiteral? (s : List Char) : Option (Found (List Char)) :=
  let content := s.takeWhile fun c => c != '\'' && isPlain c
  match s.dropWhile fun c => c != '\'' && isPlain c with
  | '\'' :: rest => some (content, rest)
  | _ => none

/-- How many quotes end a string of several lines, if it ends here; up to two more belong to it. -/
def closingQuotes (quote : Char) (s : List Char) : Option Nat :=
  let n := (s.takeWhile (· == quote)).length
  if n < 3 then none else some (min n 5)

/-- How many characters a backslash takes that joins its line with the next text, if it does. -/
def joinedLines? (s : List Char) : Option Nat :=
  match readLineEnd? (skipBlank s) with
  | none => none
  | some _ =>
    let rest := skipBreaks s
    some (s.length - rest.length)
where
  skipBreaks : List Char → List Char
    | [] => []
    | '\r' :: '\n' :: rest => skipBreaks rest
    | c :: rest => if isBlank c || c == '\n' then skipBreaks rest else c :: rest

/-- Reads a string of several lines after its first line end. Line ends count as line feeds. -/
def readLong? (quote : Char) (escapes : Bool) : (skip : Nat) → List Char → Option (Found (List Char))
  | _, [] => none
  | skip + 1, _ :: rest => readLong? quote escapes skip rest
  | 0, c :: rest =>
    match closingQuotes quote (c :: rest) with
    | some n => some (List.replicate (n - 3) quote, (c :: rest).drop n)
    | none =>
      if c == '\\' && escapes then
        match joinedLines? rest with
        | some width => readLong? quote escapes width rest
        | none => do
          let (d, width) ← readEscape? rest
          let (tail, after) ← readLong? quote escapes width rest
          some (d :: tail, after)
      else if c == '\n' || isPlain c then do
        let (tail, after) ← readLong? quote escapes 0 rest
        some (c :: tail, after)
      else if c == '\r' && rest.head? == some '\n' then readLong? quote escapes 0 rest
      else none

/-- A line end right after the opening quotes does not count. -/
def readLongString? (quote : Char) (escapes : Bool) (s : List Char) : Option (Found (List Char)) :=
  readLong? quote escapes 0 ((readLineEnd? s).getD s)

def readString? : List Char → Option (Found String)
  | '"' :: '"' :: '"' :: rest => (readLongString? '"' true rest).map fun (s, r) => (String.ofList s, r)
  | '\'' :: '\'' :: '\'' :: rest =>
    (readLongString? '\'' false rest).map fun (s, r) => (String.ofList s, r)
  | '"' :: rest => (readBasic? 0 rest).map fun (s, r) => (String.ofList s, r)
  | '\'' :: rest => (readLiteral? rest).map fun (s, r) => (String.ofList s, r)
  | _ => none

/-! ### Keys -/

def isBareChar (c : Char) : Bool := c.isAlphanum || c == '_' || c == '-'

def readSimpleKey? (s : List Char) : Option (Found String) :=
  match s with
  | '"' :: rest => (readBasic? 0 rest).map fun (k, r) => (String.ofList k, r)
  | '\'' :: rest => (readLiteral? rest).map fun (k, r) => (String.ofList k, r)
  | _ =>
    let key := s.takeWhile isBareChar
    if key.isEmpty then none else some (String.ofList key, s.dropWhile isBareChar)

/-- Reads keys and dots; `count` bounds the number of keys. -/
def readKey? : (count : Nat) → List Char → Option (Found (List String))
  | 0, _ => none
  | count + 1, s => do
    let (key, rest) ← readSimpleKey? (skipBlank s)
    match skipBlank rest with
    | '.' :: rest =>
      let (keys, rest) ← readKey? count rest
      some (key :: keys, rest)
    | rest => some ([key], rest)

/-! ### Values -/

def isWordChar (c : Char) : Bool := c.isAlphanum || c == '_' || c == '-' || c == '+' || c == '.' || c == ':'

/-- Reads a word. A date may be followed by a space and a time. -/
def readScalar? (s : List Char) : Option (Found Value) :=
  let word := s.takeWhile isWordChar
  let rest := s.dropWhile isWordChar
  match (readDate? word).isSome, rest with
  | true, ' ' :: c :: more =>
    if c.isDigit then
      let time := (c :: more).takeWhile isWordChar
      (readWord? (word ++ ' ' :: time)).map (·, (c :: more).dropWhile isWordChar)
    else (readWord? word).map (·, rest)
  | _, _ => (readWord? word).map (·, rest)

/-- Reads items and commas up to and with the closing mark; a comma may follow the last item. Items may
stand on lines of their own. `count` bounds their number. -/
def readItems? {α : Type} (item : List Char → Option (Found α)) (close : Char) :
    (count : Nat) → List Char → Option (Found (List α))
  | 0, _ => none
  | count + 1, s =>
    match skipLines false s with
    | [] => none
    | c :: rest =>
      if c == close then some ([], rest)
      else do
        let (first, rest) ← item (c :: rest)
        match skipLines false rest with
        | [] => none
        | d :: rest =>
          if d == close then some ([first], rest)
          else if d == ',' then
            let (others, rest) ← readItems? item close count rest
            some (first :: others, rest)
          else none

/-- Reads a key, an equals sign and a value. -/
def readAssignment? (value : List Char → Option (Found Literal)) (s : List Char) :
    Option (Found (List String × Literal)) := do
  let (path, rest) ← readKey? (s.length + 1) s
  match rest with
  | '=' :: rest =>
    let (v, rest) ← value (skipBlank rest)
    some ((path, v), rest)
  | _ => none

def readValue? : (depth : Nat) → List Char → Option (Found Literal)
  | 0, s =>
    match s with
    | '[' :: _ | '\x7b' :: _ => none
    | _ => readFlat? s
  | depth + 1, s =>
    match s with
    | '[' :: rest => do
      let (items, rest) ← readItems? (readValue? depth) ']' (rest.length + 1) rest
      some (.array items, rest)
    | '\x7b' :: rest => do
      let (entries, rest) ←
        readItems? (readAssignment? (readValue? depth)) '\x7d' (rest.length + 1) rest
      some (.inline entries, rest)
    | _ => readFlat? s
where
  readFlat? (s : List Char) : Option (Found Literal) :=
    match s with
    | '"' :: _ | '\'' :: _ => (readString? s).map fun (text, rest) => (.scalar (.string text), rest)
    | _ => (readScalar? s).map fun (v, rest) => (.scalar v, rest)

/-! ### Documents -/

/-- How deep arrays and inline tables may be nested. -/
def maxDepth : Nat := 80

def readStatement? : List Char → Option (Found Statement)
  | '[' :: '[' :: rest => do
    let (path, rest) ← readKey? (rest.length + 1) rest
    match rest with
    | ']' :: ']' :: rest => some (.arrayHeader path, rest)
    | _ => none
  | '[' :: rest => do
    let (path, rest) ← readKey? (rest.length + 1) rest
    match rest with
    | ']' :: rest => some (.header path, rest)
    | _ => none
  | s => do
    let ((path, value), rest) ← readAssignment? (readValue? maxDepth) s
    some (.assign path value, rest)

/-- Reads statements, each on a line of its own; `count` bounds their number. -/
def readStatements? : (count : Nat) → List Char → Option (List Statement)
  | 0, _ => none
  | count + 1, s =>
    match skipLines false s with
    | [] => some []
    | s => do
      let (statement, rest) ← readStatement? s
      match skipComment (skipBlank rest) with
      | [] => some [statement]
      | rest =>
        let next ← readLineEnd? rest
        let others ← readStatements? count next
        some (statement :: others)

def byteOrderMark : Char := Char.ofNat 0xFEFF

def readDocument? (s : List Char) : Option (List Statement) :=
  let text := if s.head? == some byteOrderMark then s.drop 1 else s
  readStatements? (text.length + 1) text

end KeyApproval.Toml
