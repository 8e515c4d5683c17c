import KeyApproval.Text.Hex
import KeyApproval.Toml.Reader

/-!
# Writing TOML values

The text of a value on one line, unless it holds a string with line ends. A string is written in the
first of four forms that needs no escapes, and with escapes if there is none.
-/

namespace KeyApproval.Toml

open Text

/-! ### Strings -/

/-- Whether a character can be written by an escape only, line feeds apart. -/
def needsEscape (c : Char) : Bool := !isPlain c && c != '\n'

/-- The length of the longest run of a character. -/
def longestRun (c : Char) (s : List Char) : Nat :=
  (s.foldl (fun (best, now) d => if d == c then (max best (now + 1), now + 1) else (best, 0)) (0, 0)).1

/-- The text of a character between quotes that needs escapes. -/
def escapeChar (c : Char) : List Char :=
  if c == '"' then ['\\', '"']
  else if c == '\\' then ['\\', '\\']
  else if c == '\x08' then ['\\', 'b']
  else if c == '\t' then ['\\', 't']
  else if c == '\n' then ['\\', 'n']
  else if c == '\x0c' then ['\\', 'f']
  else if c == '\r' then ['\\', 'r']
  else if isPlain c then [c]
  else ['\\', 'u', '0', '0', Hex.upperDigit (c.toNat / 16), Hex.upperDigit (c.toNat % 16)]

/-- Between three quotes a quote and a line feed stand for themselves. -/
def escapeLongChar (c : Char) : List Char := if c == '"' || c == '\n' then [c] else escapeChar c

def writeString (s : String) : String :=
  let text := s.toList
  let plain := !text.any needsEscape
  let lines := text.contains '\n'
  let quotes := longestRun '"' text
  let apostrophes := longestRun '\'' text
  let between (mark : String) (content : List Char) : String := mark ++ String.ofList content ++ mark
  let opening : List Char := if lines then ['\n'] else []
  if plain && !text.contains '\\' && quotes == 0 && !lines then
    between "\"" (text.flatMap escapeChar)
  else if plain && apostrophes == 0 && !lines then between "'" text
  else if plain && !text.contains '\\' && quotes ≤ 2 then
    between "\"\"\"" (opening ++ text.flatMap escapeLongChar)
  else if plain && apostrophes ≤ 2 then between "'''" (opening ++ text)
  else between "\"" (text.flatMap escapeChar)

def writeKey (key : String) : String :=
  let text := key.toList
  if !text.isEmpty && text.all isBareChar then key
  else
    let plain := text.all isPlain
    if plain && !text.contains '\\' && !text.contains '"' then
      "\"" ++ String.ofList (text.flatMap escapeChar) ++ "\""
    else if plain && !text.contains '\'' then "'" ++ key ++ "'"
    else "\"" ++ String.ofList (text.flatMap escapeChar) ++ "\""

/-! ### Dates and times -/

def Date.render (d : Date) : String :=
  padLeft 4 d.year ++ "-" ++ padLeft 2 d.month ++ "-" ++ padLeft 2 d.day

def Time.render (t : Time) : String :=
  let fraction := (padLeft 9 t.nanosecond).toList.reverse.dropWhile (· == '0')
  let shown := if t.nanosecond = 0 then "" else "." ++ String.ofList fraction.reverse
  padLeft 2 t.hour ++ ":" ++ padLeft 2 t.minute ++ ":" ++ padLeft 2 t.second ++ shown

def Offset.render : Offset → String
  | zulu => "Z"
  | minutes n =>
    (if n < 0 then "-" else "+") ++ padLeft 2 (n.natAbs / 60) ++ ":" ++ padLeft 2 (n.natAbs % 60)

def Datetime.render (d : Datetime) : String :=
  let date := (d.date.map Date.render).getD ""
  let time := (d.time.map Time.render).getD ""
  let mark := if d.date.isSome && d.time.isSome then "T" else ""
  date ++ mark ++ time ++ (d.offset.map Offset.render).getD ""

/-! ### Values -/

mutual

def Value.render : Value → String
  | .string s => writeString s
  | .integer i => toString i
  | .float x => x.text
  | .boolean b => if b then "true" else "false"
  | .datetime d => d.render
  | .array items => "[" ++ ", ".intercalate (renderItems items) ++ "]"
  | .table [] => Text.braced ""
  | .table entries => Text.braced (" " ++ ", ".intercalate (renderEntries entries) ++ " ")

def renderItems : List Value → List String
  | [] => []
  | item :: rest => item.render :: renderItems rest

def renderEntries : List (String × Value) → List String
  | [] => []
  | (key, value) :: rest => (writeKey key ++ " = " ++ value.render) :: renderEntries rest

end

end KeyApproval.Toml
