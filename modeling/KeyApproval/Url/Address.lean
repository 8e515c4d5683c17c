import KeyApproval.Text.Hex
import KeyApproval.Text.Split

/-!
# Addresses in hosts

IPv4 addresses in the loose notation of URLs, whose last number fills all bytes that are left, and IPv6
addresses with at most one gap of zeros.
-/

namespace KeyApproval.Url

open Text

/-! ### IPv4 -/

def startsWithHexMark (s : List Char) : Option (List Char) :=
  match s with
  | '0' :: x :: rest => if x == 'x' || x == 'X' then some rest else none
  | _ => none

/-- The base of a number and its digits; a zero in front means base eight. -/
def numberForm (s : List Char) : Nat × List Char :=
  match startsWithHexMark s, s with
  | some digits, _ => (16, digits)
  | none, '0' :: digit :: rest => (8, digit :: rest)
  | none, _ => (10, s)

/-- A number in base ten, eight or sixteen. The mark of base sixteen alone is zero. -/
def readIpv4Number? (s : List Char) : Option Nat :=
  let (base, digits) := numberForm s
  if s.isEmpty then none
  else ((digits.mapM hexValue?).filter (·.all (· < base))).map (digitsValue base)

/-- Whether a host must be an IPv4 address, because its last part is a number. -/
def endsInNumber (host : List Char) : Bool :=
  let parts := (split '.' host).reverse
  let last := match parts with
    | [] :: before => before.head?
    | _ => parts.head?
  match last with
  | none => false
  | some part => (!part.isEmpty && part.all Char.isDigit) || (readIpv4Number? part).isSome

/-- The address whose numbers these are: each is a byte but the last, which fills the rest. -/
def ipv4OfNumbers? (numbers : List Nat) : Option UInt32 :=
  match numbers.reverse with
  | [] => none
  | last :: front =>
    if 3 < front.length ∨ Nat.pow 256 (4 - front.length) ≤ last ∨ front.any (255 < ·) then none
    else
      let high := digitsValue 256 front.reverse * Nat.pow 256 (4 - front.length)
      some (high + last).toUInt32

def readIpv4? (host : List Char) : Option UInt32 :=
  let parts := split '.' host
  let parts := if parts.getLast? == some [] then parts.dropLast else parts
  (parts.mapM readIpv4Number?).bind ipv4OfNumbers?

def writeIpv4 (a : UInt32) : String :=
  let n := a.toNat
  ".".intercalate ([n / 0x1000000, n / 0x10000 % 256, n / 0x100 % 256, n % 256].map toString)

/-! ### IPv6 -/

/-- A byte in decimal without a zero in front. -/
def readPlainByte? (s : List Char) : Option Nat :=
  if s.head? == some '0' && 1 < s.length then none else (readDigits? s).filter (· < 256)

/-- The two pieces of an address in dotted form. -/
def readDotted? (s : List Char) : Option (List Nat) :=
  match (split '.' s).mapM readPlainByte? with
  | some [a, b, c, d] => some [a * 256 + b, c * 256 + d]
  | _ => none

def readPiece? (s : List Char) : Option Nat :=
  if s.isEmpty || 4 < s.length then none else (s.mapM hexValue?).map (digitsValue 16)

/-- The pieces between colons, the last of which may be two in dotted form. -/
def readPieces? : List (List Char) → Option (List Nat)
  | [] => some []
  | [last] => if last.contains '.' then readDotted? last else (readPiece? last).map ([·])
  | piece :: rest => do
    let first ← readPiece? piece
    let others ← readPieces? rest
    return first :: others

/-- The text before and after the first pair of colons. -/
def splitGap : List Char → Option (List Char × List Char)
  | [] => none
  | [_] => none
  | a :: b :: rest =>
    if a == ':' && b == ':' then some ([], rest)
    else (splitGap (b :: rest)).map fun (before, after) => (a :: before, after)

def readSide? (s : List Char) : Option (List Nat) :=
  if s.isEmpty then some [] else readPieces? (split ':' s)

/-- The eight pieces of an address; a gap stands for one zero at least. -/
def readIpv6? (s : List Char) : Option (List Nat) :=
  match splitGap s with
  | none => (readSide? s).filter (·.length == 8)
  | some (before, after) => do
    if before.contains '.' then none
    else
      let front ← readSide? before
      let back ← readSide? after
      if 7 < front.length + back.length then none
      else some (front ++ List.replicate (8 - front.length - back.length) 0 ++ back)

def zeroRun (pieces : List Nat) : Nat := (pieces.takeWhile (· == 0)).length

/-- Where the first of the longest runs of two zeros or more begins, and its length. -/
def longestZeroRun (pieces : List Nat) : Option (Nat × Nat) :=
  let runs := (List.range pieces.length).map fun i => (i, zeroRun (pieces.drop i))
  runs.foldl (fun best (i, n) =>
    match best with
    | none => if 2 ≤ n then some (i, n) else none
    | some (j, m) => if m < n then some (i, n) else some (j, m)) none

def writePieces (pieces : List Nat) : String :=
  ":".intercalate (pieces.map fun n => String.ofList (Hex.ofNat n))

def writeIpv6 (pieces : List Nat) : String :=
  match longestZeroRun pieces with
  | none => writePieces pieces
  | some (start, length) =>
    writePieces (pieces.take start) ++ "::" ++ writePieces (pieces.drop (start + length))

end KeyApproval.Url
