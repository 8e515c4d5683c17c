/-!
# White space and control characters

The two character classes that a header name must avoid, and trimming by the first.
-/

namespace KeyApproval.Text

/-- The Unicode property White_Space. -/
def isBlank (c : Char) : Bool :=
  let n := c.toNat
  (9 ≤ n && n ≤ 13) || n == 0x20 || n == 0x85 || n == 0xA0 || n == 0x1680 ||
    (0x2000 ≤ n && n ≤ 0x200A) || n == 0x2028 || n == 0x2029 || n == 0x202F || n == 0x205F ||
    n == 0x3000

/-- The general category Cc. -/
def isControl (c : Char) : Bool :=
  let n := c.toNat
  n < 0x20 || (0x7F ≤ n && n < 0xA0)

def dropEndWhile (p : Char → Bool) (s : List Char) : List Char :=
  (s.reverse.dropWhile p).reverse

theorem dropEndWhile_append_singleton {p : Char → Bool} {c : Char} (hc : p c = false) (s : List Char) :
    dropEndWhile p (s ++ [c]) = s ++ [c] := by
  simp [dropEndWhile, hc]

/-- The text without the blanks at both of its ends. -/
def trim (s : List Char) : List Char := dropEndWhile isBlank (s.dropWhile isBlank)

end KeyApproval.Text
