/-!
# Letter case in ASCII

Protocol names are compared and folded over the letters A to Z only; every other character stands for
itself.
-/

namespace KeyApproval.Text

def lower (s : List Char) : List Char := s.map Char.toLower

def sameIgnoringCase (a b : List Char) : Bool := lower a == lower b

def lowerString (s : String) : String := String.ofList (lower s.toList)

theorem sameIgnoringCase_iff {a b : List Char} : sameIgnoringCase a b = true ↔ lower a = lower b :=
  beq_iff_eq

end KeyApproval.Text
