import KeyApproval.Json.Value
import KeyApproval.Text.Utf8

/-!
# Reading JSON

A strict reader over bytes. The leaves (words, strings, numbers) are read by functions of their own, and
a `Lexer` says which of two ways is taken: values that are kept are checked in full, values that are
skipped only for their form. Nesting is bounded by the `depth` that is left.
-/

namespace KeyApproval.Json

/-- What was read and the bytes after it. -/
abbrev Found (α : Type) := α × List UInt8

def isSpace (b : UInt8) : Bool := b == 0x20 || b == 0x0A || b == 0x0D || b == 0x09

def skipSpace (s : List UInt8) : List UInt8 := s.dropWhile isSpace

def isDigit (b : UInt8) : Bool := 0x30 ≤ b && b ≤ 0x39

def readWord : List UInt8 → List UInt8 → Except Error (List UInt8)
  | [], s => .ok s
  | _ :: _, [] => .error .endOfText
  | w :: word, b :: s => if w == b then readWord word s else .error .malformed

/-! ### Strings -/

def hexDigit? (b : UInt8) : Option Nat := Text.hexValue? (Char.ofNat b.toNat)

/-- Reads four digits of base sixteen; with fewer bytes left the text has ended. -/
def readHex4 : List UInt8 → Except Error Nat
  | a :: b :: c :: d :: _ =>
    match hexDigit? a, hexDigit? b, hexDigit? c, hexDigit? d with
    | some a, some b, some c, some d => .ok (Text.digitsValue 16 [a, b, c, d])
    | _, _, _, _ => .error .malformed
  | _ => .error .endOfText

def simpleEscape? (b : UInt8) : Option Char :=
  let c := Char.ofNat b.toNat
  if c == '"' || c == '\\' || c == '/' then some c
  else if c == 'b' then some '\x08'
  else if c == 'f' then some '\x0c'
  else if c == 'n' then some '\n'
  else if c == 'r' then some '\r'
  else if c == 't' then some '\t'
  else none

/-- What follows a backslash: its character and the number of bytes that it takes. -/
abbrev Escape := Char × Nat

/-- Reads the second half of a character that is written as two surrogates. -/
def readLowSurrogate (high : Nat) : List UInt8 → Except Error Escape
  | [] => .error .endOfText
  | b :: rest =>
    if b != 0x5C then .error .malformed
    else match rest with
      | [] => .error .endOfText
      | u :: digits =>
        if u != 0x75 then .error .malformed
        else do
          let low ← readHex4 digits
          if 0xDC00 ≤ low ∧ low ≤ 0xDFFF then
            return (Char.ofNat (0x10000 + (high - 0xD800) * 0x400 + (low - 0xDC00)), 11)
          else throw .malformed

/-- Reads an escape; surrogates must come in pairs. -/
def readEscape : List UInt8 → Except Error Escape
  | [] => .error .endOfText
  | b :: rest =>
    if b == 0x75 then do
      let unit ← readHex4 rest
      if 0xDC00 ≤ unit ∧ unit ≤ 0xDFFF then throw .malformed
      else if 0xD800 ≤ unit ∧ unit ≤ 0xDBFF then readLowSurrogate unit (rest.drop 4)
      else return (Char.ofNat unit, 5)
    else match simpleEscape? b with
      | some c => .ok (c, 1)
      | none => .error .malformed

/-- Reads an escape that nobody will look at; any four digits will do. -/
def passEscape : List UInt8 → Except Error Escape
  | [] => .error .endOfText
  | b :: rest =>
    if b == 0x75 then do
      let _ ← readHex4 rest
      return (' ', 5)
    else match simpleEscape? b with
      | some c => .ok (c, 1)
      | none => .error .malformed

/-- Reads the bytes of a string up to and with its closing quote, after passing over `skip` bytes that an
escape has used up. -/
def readContent (escape : List UInt8 → Except Error Escape) :
    (skip : Nat) → List UInt8 → Except Error (Found (List UInt8))
  | _, [] => .error .endOfText
  | skip + 1, _ :: rest => readContent escape skip rest
  | 0, b :: rest =>
    if b == 0x22 then .ok ([], rest)
    else if b == 0x5C then do
      let (c, width) ← escape rest
      let (tail, after) ← readContent escape width rest
      return (Text.Utf8.encodeChar c ++ tail, after)
    else if b < 0x20 then .error .malformed
    else do
      let (tail, after) ← readContent escape 0 rest
      return (b :: tail, after)

/-- Reads a string after its opening quote. Its bytes are checked when the closing quote is reached. -/
def readString (s : List UInt8) : Except Error (Found String) := do
  let (content, rest) ← readContent readEscape 0 s
  match Text.Utf8.decode content with
  | .ok text => return (String.ofList text, rest)
  | .error _ => throw .malformed

def passString (s : List UInt8) : Except Error (Found String) := do
  let (_, rest) ← readContent passEscape 0 s
  return ("", rest)

/-! ### Numbers -/

def digitsOf (s : List UInt8) : List Nat := (s.takeWhile isDigit).map fun b => b.toNat - 0x30

def afterDigits (s : List UInt8) : List UInt8 := s.dropWhile isDigit

def readDigits (s : List UInt8) : Except Error (Found (List Nat)) :=
  match s with
  | [] => .error .endOfText
  | b :: _ => if isDigit b then .ok (digitsOf s, afterDigits s) else .error .malformed

/-- Reads digits of which a zero in front must be the only one. -/
def readWhole (s : List UInt8) : Except Error (Found (List Nat)) := do
  let (digits, rest) ← readDigits s
  match digits with
  | 0 :: _ :: _ => throw .malformed
  | _ => return (digits, rest)

def readFraction : List UInt8 → Except Error (Found (List Nat))
  | 0x2E :: s => readDigits s
  | s => .ok ([], s)

def readExponent : List UInt8 → Except Error (Found (Option Int))
  | [] => .ok (none, [])
  | e :: s =>
    if e == 0x65 || e == 0x45 then do
      let (sign, digits) : Int × List UInt8 := match s with
        | 0x2B :: t => (1, t)
        | 0x2D :: t => (-1, t)
        | _ => (1, s)
      let (value, rest) ← readDigits digits
      return (some (sign * Text.digitsValue 10 value), rest)
    else .ok (none, e :: s)

def readNumeral (s : List UInt8) : Except Error (Found Numeral) := do
  let (negative, unsigned) := match s with
    | 0x2D :: t => (true, t)
    | _ => (false, s)
  let (whole, afterWhole) ← readWhole unsigned
  let (fraction, afterFraction) ← readFraction afterWhole
  let (exponent, rest) ← readExponent afterFraction
  return (⟨negative, whole, fraction, exponent⟩, rest)

/-- Reads a number that is an integer of 64 bits or fits a float. -/
def readNumber (s : List UInt8) : Except Error (Found Numeral) := do
  let (numeral, rest) ← readNumeral s
  if numeral.isSmallInteger || numeral.inFloatRange then return (numeral, rest)
  else throw .malformed

/-- Reads a number that nobody will look at; where one breaks off the text is malformed, wherever that
is. -/
def passNumber (s : List UInt8) : Except Error (Found Numeral) :=
  match readNumeral s with
  | .ok found => .ok found
  | .error _ => .error .malformed

/-! ### Values -/

structure Lexer where
  string : List UInt8 → Except Error (Found String)
  number : List UInt8 → Except Error (Found Numeral)

def Lexer.checking : Lexer := ⟨readString, readNumber⟩

def Lexer.skipping : Lexer := ⟨passString, passNumber⟩

/-- Reads a scalar, whose first byte shows its kind. -/
def readScalar (lexer : Lexer) : List UInt8 → Except Error (Found Value)
  | [] => .error .endOfText
  | b :: rest =>
    if b == 0x6E then do
      let rest ← readWord [0x75, 0x6C, 0x6C] rest
      return (.null, rest)
    else if b == 0x74 then do
      let rest ← readWord [0x72, 0x75, 0x65] rest
      return (.bool true, rest)
    else if b == 0x66 then do
      let rest ← readWord [0x61, 0x6C, 0x73, 0x65] rest
      return (.bool false, rest)
    else if b == 0x22 then do
      let (text, rest) ← lexer.string rest
      return (.string text, rest)
    else if b == 0x2D || isDigit b then do
      let (numeral, rest) ← lexer.number (b :: rest)
      return (.number numeral, rest)
    else .error .malformed

/-- Reads items and commas up to and with the closing byte; `count` bounds the number of items. -/
def readItems {α : Type} (item : List UInt8 → Except Error (Found α)) (close : UInt8) :
    (count : Nat) → List UInt8 → Except Error (Found (List α))
  | 0, _ => .error .endOfText
  | count + 1, s => do
    let (first, rest) ← item s
    match skipSpace rest with
    | [] => throw .endOfText
    | b :: rest =>
      if b == close then return ([first], rest)
      else if b == 0x2C then
        let (others, rest) ← readItems item close count (skipSpace rest)
        return (first :: others, rest)
      else throw .malformed

/-- Reads what stands between brackets: nothing, or items and commas. -/
def readSequence {α : Type} (item : List UInt8 → Except Error (Found α)) (close : UInt8)
    (s : List UInt8) : Except Error (Found (List α)) :=
  match skipSpace s with
  | [] => .error .endOfText
  | b :: rest =>
    if b == close then .ok ([], rest) else readItems item close (rest.length + 1) (b :: rest)

def readName (lexer : Lexer) : List UInt8 → Except Error (Found String)
  | [] => .error .endOfText
  | b :: rest => if b == 0x22 then lexer.string rest else .error .malformed

def readColon (s : List UInt8) : Except Error (List UInt8) :=
  match skipSpace s with
  | [] => .error .endOfText
  | b :: rest => if b == 0x3A then .ok rest else .error .malformed

def readMember (lexer : Lexer) (value : List UInt8 → Except Error (Found Value)) (s : List UInt8) :
    Except Error (Found (String × Value)) := do
  let (name, rest) ← readName lexer s
  let rest ← readColon rest
  let (v, rest) ← value rest
  return ((name, v), rest)

def readValue (lexer : Lexer) : (depth : Nat) → List UInt8 → Except Error (Found Value)
  | 0, s =>
    match skipSpace s with
    | 0x5B :: _ | 0x7B :: _ => .error .malformed
    | s => readScalar lexer s
  | depth + 1, s =>
    match skipSpace s with
    | 0x5B :: rest => do
      let (items, rest) ← readSequence (readValue lexer depth) 0x5D rest
      return (.array items, rest)
    | 0x7B :: rest => do
      let (members, rest) ← readSequence (readMember lexer (readValue lexer depth)) 0x7D rest
      return (.object members, rest)
    | s => readScalar lexer s

/-- How deep arrays and objects may be nested in a value that is kept. -/
def maxDepth : Nat := 127

def readEnd (s : List UInt8) : Except Error Unit :=
  if (skipSpace s).isEmpty then .ok () else .error .malformed

def read (s : List UInt8) : Except Error Value := do
  let (value, rest) ← readValue .checking maxDepth s
  readEnd rest
  return value

def skipValue (s : List UInt8) : Except Error (List UInt8) := do
  let (_, rest) ← readValue .skipping s.length s
  return rest

end KeyApproval.Json
