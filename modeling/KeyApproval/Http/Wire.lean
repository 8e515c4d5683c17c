import KeyApproval.Http.Message

/-!
# Headers on the wire

Which headers may be sent at all, and how lists of them look on the way: names in lower case, and the
values of one name together where the name came first. A name must be a token and a value must be free of
control characters, so that no header can end a line or begin another one.
-/

namespace KeyApproval.Http

def tokenMarks : List Char := "!#$%&'*+-.^_`|~".toList

def isTokenChar (c : Char) : Bool := c.isAlphanum || tokenMarks.contains c

def maxNameLength : Nat := 65535

def isToken (name : String) : Bool :=
  name ≠ "" && name.length ≤ maxNameLength && name.toList.all isTokenChar

/-- All but the ASCII control characters; a tab may stand in a value. -/
def isValueChar (c : Char) : Bool := c == '\t' || (' ' ≤ c && c != '\x7f')

def Header.wireFault? (h : Header) : Option String :=
  if !isToken h.name then some "invalid HTTP header name"
  else if !h.value.toList.all isValueChar then some "failed to parse header value"
  else none

def Headers.wireFault? (l : Headers) : Option (Header × String) :=
  l.toList.findSome? fun h => h.wireFault?.map fun reason => (h, reason)

/-- Puts the values of each name together. -/
def together : List Header → List Header
  | [] => []
  | h :: rest =>
    h :: rest.filter (·.name = h.name) ++ together (rest.filter (·.name ≠ h.name))
termination_by l => l.length
decreasing_by
  simp only [List.length_unattach, List.length_cons]
  exact Nat.lt_succ_of_le
    (Nat.le_trans (List.length_filter_le _ _) (Nat.le_of_eq List.length_attach))

def travelling (l : List Header) : List Header :=
  together (l.map fun h => ⟨Text.lowerString h.name, h.value⟩)

def hasName (l : List Header) (name : String) : Bool := l.any (·.name == name)

/-- A header of an answer, whose value need not be text. -/
structure RawHeader where
  name : String
  value : List UInt8

def isPadding (b : UInt8) : Bool := b == 0x20 || b == 0x09

def RawHeader.header (h : RawHeader) : Header :=
  let started := h.value.dropWhile isPadding
  let trimmed := (started.reverse.dropWhile isPadding).reverse
  ⟨h.name, String.ofList (Text.Utf8.decodeLossy trimmed)⟩

/-- The headers of an answer as they are handed over. -/
def received (l : List RawHeader) : Except HeaderError Headers :=
  Headers.empty.pushAll (travelling (l.map RawHeader.header))

end KeyApproval.Http
