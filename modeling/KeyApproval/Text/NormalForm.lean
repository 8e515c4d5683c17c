import KeyApproval.Text.CanonicalTable

/-!
# Canonical composition

The composed normal form of a text: every character is taken apart, marks are brought into the order of
their classes, and characters are put together again where nothing stands between them.
-/

namespace KeyApproval.Text.NormalForm

/-! ### Hangul syllables

A syllable is a leading consonant, a vowel and at most one trailing consonant, and its number counts
them. -/

def firstSyllable : Nat := 0xAC00
def firstLeading : Nat := 0x1100
def firstVowel : Nat := 0x1161
/-- The code point before the first trailing consonant. -/
def beforeTrailing : Nat := 0x11A7
def vowelCount : Nat := 21
def trailingCount : Nat := 28
def syllableCount : Nat := 19 * vowelCount * trailingCount

def isSyllable (n : Nat) : Bool := firstSyllable ≤ n && n < firstSyllable + syllableCount

def decomposeSyllable (n : Nat) : List Nat :=
  let i := n - firstSyllable
  let pair := [firstLeading + i / (vowelCount * trailingCount),
    firstVowel + i / trailingCount % vowelCount]
  if i % trailingCount = 0 then pair else pair ++ [beforeTrailing + i % trailingCount]

def composeSyllable? (a b : Nat) : Option Nat :=
  if firstLeading ≤ a ∧ a < firstLeading + 19 ∧ firstVowel ≤ b ∧ b < firstVowel + vowelCount then
    some (firstSyllable + ((a - firstLeading) * vowelCount + (b - firstVowel)) * trailingCount)
  else if isSyllable a ∧ (a - firstSyllable) % trailingCount = 0 ∧ beforeTrailing < b ∧
      b < beforeTrailing + trailingCount then
    some (a + (b - beforeTrailing))
  else none

/-! ### Decomposition, order, composition -/

def decompose (n : Nat) : List Nat :=
  if n < 0xC0 then [n]
  else if isSyllable n then decomposeSyllable n
  else ((decompositions.find? (·.1 == n)).map (·.2)).getD [n]

/-- Puts a code point with its class before the marks at the end that have a higher class. The marks at
the end come last first. -/
def insertMark (mark : Nat × Nat) : List (Nat × Nat) → List (Nat × Nat)
  | [] => [mark]
  | last :: rest => if mark.2 < last.2 then last :: insertMark mark rest else mark :: last :: rest

/-- Sorts each run of marks by class; characters of class zero stay where they are. -/
def sortMarks (codes : List Nat) : List (Nat × Nat) :=
  let step (s : List (Nat × Nat) × List (Nat × Nat)) (n : Nat) :=
    let k := combiningClass n
    if k = 0 then ((n, 0) :: s.2 ++ s.1, []) else (s.1, insertMark (n, k) s.2)
  let (sorted, marks) := codes.foldl step ([], [])
  (marks ++ sorted).reverse

def composePair? (a b : Nat) : Option Nat :=
  match composeSyllable? a b with
  | some c => some c
  | none => (compositions.find? fun (x, y, _) => x == a && y == b).map (·.2.2)

/-- A text in composition. All lists come last first. -/
structure Composing where
  finished : List Nat
  starter : Option Nat
  marks : List (Nat × Nat)

def Composing.all (s : Composing) : List Nat :=
  s.marks.map (·.1) ++ s.starter.toList ++ s.finished

def Composing.put (s : Composing) : Nat × Nat → Composing
  | (n, k) =>
    let blocked := match s.marks with
      | [] => false
      | (_, last) :: _ => k ≤ last
    match s.starter.bind fun a => if blocked then none else composePair? a n with
    | some composed => { s with starter := some composed }
    | none =>
      if k = 0 then ⟨s.all, some n, []⟩
      else if s.starter.isNone then ⟨n :: s.finished, none, []⟩
      else { s with marks := (n, k) :: s.marks }

/-- The composed normal form. -/
def compose (s : List Char) : List Char :=
  if s.all fun c => c.toNat < 0xC0 then s
  else
    let sorted := sortMarks (s.flatMap fun c => decompose c.toNat)
    ((sorted.foldl Composing.put ⟨[], none, []⟩).all.reverse).map Char.ofNat

end KeyApproval.Text.NormalForm
