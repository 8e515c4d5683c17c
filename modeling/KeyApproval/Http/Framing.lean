import KeyApproval.Http.Wire
import KeyApproval.Text.Blank
import KeyApproval.Text.Hex
import KeyApproval.Text.Number

/-!
# Where a body ends

The other side learns from the headers how much of what follows them is the body: either its length is announced
or it comes in chunks. Headers that announce a length or a coding already are taken at their word, whatever the
body is; only where they say nothing that makes sense is the length of the body put in. An empty body is not
sent at all.
-/

namespace KeyApproval.Http

def lengthName : String := "content-length"

def codingName : String := "transfer-encoding"

def lineEnd : List UInt8 := [0x0D, 0x0A]

def valuesOf (l : List Header) (name : String) : List String := (l.filter (·.name == name)).map Header.value

def without (l : List Header) (name : String) : List Header := l.filter (·.name != name)

/-- The parts of a value that is a list of words; a value beyond ASCII is none. -/
def words? (value : String) : Option (List (List Char)) :=
  if value.toList.all (·.toNat < 0x7F) then some ((Text.split ',' value.toList).map Text.trim) else none

def readLength? (word : List Char) : Option Nat := (Text.readDigits? word).filter (· < UInt64.size)

def readLengths? (value : String) : Option (List Nat) := do (← words? value).mapM readLength?

/-- The length that the headers announce. A length may be said more than once, but it must be the same one. -/
def announcedLength? (l : List Header) : Option Nat := do
  let lengths ← (valuesOf l lengthName).mapM readLengths?
  let first ← lengths.flatten.head?
  if lengths.flatten.all (· == first) then some first else none

def isChunked (value : String) : Bool :=
  match (words? value).bind List.getLast? with
  | some word => Text.sameIgnoringCase word "chunked".toList
  | none => false

/-- Sees to it that the last coding is the one with chunks. -/
def sayChunked : List Header → List Header
  | [] => []
  | h :: rest =>
    if h.name == codingName && !hasName rest codingName && !isChunked h.value then
      ⟨h.name, h.value ++ ", chunked"⟩ :: rest
    else h :: sayChunked rest

/-- Announces a length in place of all that was announced. -/
def putLength (n : Nat) (l : List Header) : List Header :=
  let isOther (h : Header) : Bool := h.name != lengthName
  l.takeWhile isOther ++ ⟨lengthName, toString n⟩ :: (l.dropWhile isOther).filter isOther

/-- How a body is told from what follows it. -/
inductive Framing where
  | empty
  | chunked
  | announced (length : Nat)
  | measured
  deriving DecidableEq

namespace Framing

def of (l : List Header) (body : List UInt8) : Framing :=
  if body.isEmpty then empty
  else if hasName l codingName then chunked
  else match announcedLength? l with
    | some length => announced length
    | none => measured

def headers (l : List Header) (body : List UInt8) : Framing → List Header
  | empty => without l codingName
  | chunked => sayChunked (if (announcedLength? l).isSome then without l lengthName else l)
  | announced _ => l
  | measured => putLength body.length l

def chunk (bytes : List UInt8) : List UInt8 :=
  Text.Utf8.encode ((Nat.toDigits 16 bytes.length).map Char.toUpper) ++ lineEnd ++ bytes ++ lineEnd

/-- What follows the headers. Nothing is sent beyond a length that was announced. -/
def content (body : List UInt8) : Framing → List UInt8
  | empty => []
  | chunked => chunk body ++ chunk []
  | announced length => body.take length
  | measured => body

end Framing

end KeyApproval.Http
