import KeyApproval.Text.Number
import KeyApproval.Text.Split

/-!
# Tables over code points

Properties of characters as sorted ranges of code points. A table is written as lines of text: entries
separated by blanks, the fields of an entry by hyphens, numbers in base sixteen.
-/

namespace KeyApproval.Text

/-- The value of digits of base sixteen, where every other character counts as zero. -/
def readHex (digits : List Char) : Nat :=
  digitsValue 16 (digits.map fun c => (hexValue? c).getD 0)

/-- The entries of a line, each as its fields. -/
def lineEntries (line : List Char) : List (List (List Char)) :=
  ((split ' ' line).filter (!·.isEmpty)).map (split '-')

def tableEntries (lines : List String) : List (List (List Char)) :=
  lines.flatMap fun line => lineEntries line.toList

/-- Ranges of code points, both ends included. -/
structure CodeRanges where
  ranges : List (Nat × Nat)

/-- Reads an entry of the form A-B or A. -/
def rangeOf : List (List Char) → Nat × Nat
  | low :: high :: _ => (readHex low, readHex high)
  | [only] => (readHex only, readHex only)
  | [] => (1, 0)

def CodeRanges.ofLines (lines : List String) : CodeRanges := ⟨(tableEntries lines).map rangeOf⟩

def CodeRanges.contains (t : CodeRanges) (n : Nat) : Bool :=
  t.ranges.any fun (low, high) => low ≤ n && n ≤ high

def CodeRanges.containsChar (t : CodeRanges) (c : Char) : Bool := t.contains c.toNat

end KeyApproval.Text
