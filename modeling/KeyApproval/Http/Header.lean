import KeyApproval.Text.Ascii
import KeyApproval.Text.Blank
import KeyApproval.Text.Quoted

/-!
# Header lists

Headers in the order in which they were added. Every name in a list is fit to stand in front of a colon
and between blanks, and this is part of the type: the rule is checked in `push` and nowhere else.
-/

namespace KeyApproval.Http

structure Header where
  name : String
  value : String
  deriving DecidableEq

def Header.line (h : Header) : String := h.name ++ ": " ++ h.value

def isNameChar (c : Char) : Bool := c != ':' && !Text.isBlank c && !Text.isControl c

/-- A nonempty text without colons, blanks and control characters. -/
def IsName (name : String) : Prop := name ≠ "" ∧ ∀ c ∈ name.toList, isNameChar c = true

instance (name : String) : Decidable (IsName name) :=
  decidable_of_iff (name ≠ "" ∧ name.toList.all isNameChar = true) (by rw [IsName, List.all_eq_true])

inductive HeaderError where
  | emptyName
  | invalidName (name : String)
  deriving DecidableEq

def HeaderError.message : HeaderError → String
  | .emptyName => "Header name is empty"
  | .invalidName name => "Invalid header name: " ++ Text.Quoted.quote name

structure Headers where
  toList : List Header
  names_valid : ∀ h ∈ toList, IsName h.name

namespace Headers

def empty : Headers := ⟨[], by simp⟩

instance : Inhabited Headers := ⟨empty⟩

def length (l : Headers) : Nat := l.toList.length

def isEmpty (l : Headers) : Bool := l.toList.isEmpty

/-- The list with one more header, whose name is known to be fit. -/
def append (l : Headers) (h : Header) (valid : IsName h.name) : Headers :=
  ⟨l.toList ++ [h], fun k hk => by
    rcases List.mem_append.mp hk with hk | hk
    · exact l.names_valid k hk
    · rw [List.mem_singleton.mp hk]; exact valid⟩

def push (l : Headers) (name value : String) : Except HeaderError Headers :=
  if valid : IsName name then .ok (l.append ⟨name, value⟩ valid)
  else if name = "" then .error .emptyName
  else .error (.invalidName name)

def pushHeader (l : Headers) (h : Header) : Except HeaderError Headers := l.push h.name h.value

/-- Adds headers one by one up to the first that is refused. -/
def pushAll (l : Headers) (hs : List Header) : Except HeaderError Headers :=
  hs.foldlM pushHeader l

/-- The value of the first header of that name, whatever its letter case. -/
def get? (l : Headers) (name : String) : Option String :=
  (l.toList.find? fun h => Text.sameIgnoringCase h.name.toList name.toList).map (·.value)

theorem push_of_isName (l : Headers) {name : String} (value : String) (valid : IsName name) :
    l.push name value = .ok (l.append ⟨name, value⟩ valid) := by
  simp [push, valid]

theorem toList_append (l : Headers) (h : Header) (valid : IsName h.name) :
    (l.append h valid).toList = l.toList ++ [h] := rfl

end Headers

end KeyApproval.Http
