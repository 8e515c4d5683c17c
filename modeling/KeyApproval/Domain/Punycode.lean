/-!
# Punycode

Writing any text in letters, digits and hyphens. The ASCII characters come first; the others follow as
numbers that say where they are inserted, in a notation of base 36 whose digits end a number early when
small numbers are expected.
-/

namespace KeyApproval.Domain.Punycode

def digitChar (d : Nat) : Char :=
  if d < 26 then Char.ofNat ('a'.toNat + d) else Char.ofNat ('0'.toNat + (d - 26))

def digitValue? (c : Char) : Option Nat :=
  if 'a' ≤ c ∧ c ≤ 'z' then some (c.toNat - 'a'.toNat)
  else if 'A' ≤ c ∧ c ≤ 'Z' then some (c.toNat - 'A'.toNat)
  else if c.isDigit then some (c.toNat - '0'.toNat + 26)
  else none

/-- A digit below the threshold is the last of its number. -/
def threshold (place bias : Nat) : Nat :=
  if place ≤ bias then 1 else min 26 (place - bias)

theorem threshold_bounds (place bias : Nat) :
    1 ≤ threshold place bias ∧ threshold place bias ≤ 26 := by
  unfold threshold; split <;> omega

def scaleDown (delta places : Nat) : Nat :=
  if delta ≤ 455 then places + 36 * delta / (delta + 38) else scaleDown (delta / 35) (places + 36)
termination_by delta
decreasing_by omega

/-- The bias for the next number, from the last one and the count of characters so far. -/
def adapt (delta count : Nat) (first : Bool) : Nat :=
  let damped := if first then delta / 700 else delta / 2
  scaleDown (damped + damped / count) 0

/-! ### Encoding -/

def encodeNumber (bias place n : Nat) : List Char :=
  let t := threshold place bias
  if n < t then [digitChar n]
  else digitChar (t + (n - t) % (36 - t)) :: encodeNumber bias (place + 36) ((n - t) / (36 - t))
termination_by n
decreasing_by
  have := threshold_bounds place bias
  exact Nat.lt_of_le_of_lt (Nat.div_le_self _ _) (by omega)

structure Encoding where
  output : List Char
  delta : Nat
  bias : Nat
  handled : Nat

/-- Passes one character of the text while those of code `code` are inserted. -/
def Encoding.pass (basic code : Nat) (s : Encoding) (n : Nat) : Encoding :=
  if n < code then { s with delta := s.delta + 1 }
  else if n = code then
    ⟨s.output ++ encodeNumber s.bias 36 s.delta, 0,
      adapt s.delta (s.handled + 1) (s.handled == basic), s.handled + 1⟩
  else s

/-- Inserts all characters of each code in turn, from the least to the greatest. -/
def insertAll (text : List Nat) (basic : Nat) : (start : Nat) → List Nat → Encoding → List Char
  | _, [], s => s.output
  | start, code :: rest, s =>
    let s := { s with delta := s.delta + (code - start) * (s.handled + 1) }
    let s := text.foldl (Encoding.pass basic code) s
    insertAll text basic (code + 1) rest { s with delta := s.delta + 1 }

def encode (s : List Char) : List Char :=
  let basic := s.filter fun c => c.toNat < 0x80
  let others := (s.filter fun c => 0x80 ≤ c.toNat).map Char.toNat
  let front := if basic.isEmpty then [] else basic ++ ['-']
  insertAll (s.map Char.toNat) basic.length 0x80 (others.mergeSort (· ≤ ·)).eraseDups
    ⟨front, 0, 72, basic.length⟩

/-! ### Decoding -/

structure Decoding where
  text : List Char
  code : Nat
  bias : Nat
  /-- Where the last insertion took place. -/
  position : Nat
  /-- The number that is being read, its place value and its place. -/
  number : Nat
  weight : Nat
  place : Nat

def insertAt (s : List Char) (i : Nat) (c : Char) : List Char := s.take i ++ c :: s.drop i

/-- Takes a digit; after the last one of a number a character is inserted. -/
def Decoding.take (s : Decoding) (d : Nat) : Option Decoding :=
  let number := s.number + d * s.weight
  let t := threshold s.place s.bias
  if UInt32.size ≤ number then none
  else if t ≤ d then
    some { s with number, weight := s.weight * (36 - t), place := s.place + 36 }
  else
    let count := s.text.length + 1
    let reached := s.position + number
    let code := s.code + reached / count
    let position := reached % count
    if h : code.isValidChar then
      some ⟨insertAt s.text position (Char.ofNatAux code h), code,
        adapt number count (s.position == 0), position + 1, 0, 1, 36⟩
    else none

def decode? (s : List Char) : Option (List Char) := do
  let (basic, digits) := match s.reverse.span (· ≠ '-') with
    | (after, '-' :: before) => if before.isEmpty then ([], s) else (before.reverse, after.reverse)
    | _ => ([], s)
  if basic.all fun c => c.toNat < 0x80 then
    let values ← digits.mapM digitValue?
    let s ← values.foldlM Decoding.take ⟨basic, 0x80, 72, 0, 0, 1, 36⟩
    if s.weight = 1 then return s.text else none
  else none

end KeyApproval.Domain.Punycode
