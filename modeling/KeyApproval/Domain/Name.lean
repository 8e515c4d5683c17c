import KeyApproval.Domain.Direction
import KeyApproval.Domain.Joining
import KeyApproval.Domain.Mapping
import KeyApproval.Domain.Punycode
import KeyApproval.Domain.Valid
import KeyApproval.Text.Ascii
import KeyApproval.Text.Mark
import KeyApproval.Text.NormalForm
import KeyApproval.Text.Utf8

/-!
# Domain names

The ASCII form of an internationalized domain name. A name is mapped and composed, its labels are
checked, and those beyond ASCII are written in Punycode. Labels may be empty, of any length, and may have
hyphens anywhere; what a name may not hold in its final form is a character that means something else
in a URL.
-/

namespace KeyApproval.Domain

def isAscii (s : List Char) : Bool := s.all fun c => c.toNat < 0x80

/-- Characters that end or structure a host, and those without a face. -/
def isForbidden (c : Char) : Bool :=
  c.toNat ≤ 0x20 || c.toNat == 0x7F ||
    ['%', '#', '/', ':', '<', '>', '?', '@', '[', '\\', ']', '^', '|'].contains c

def mapChar (c : Char) : Option (List Char) :=
  match image? c with
  | some image => some image
  | none => if isValid c then some [c] else none

def fold? (s : List Char) : Option (List Char) :=
  if isAscii s then some (Text.lower s)
  else (s.mapM mapChar).map fun images => Text.NormalForm.compose images.flatten

/-! ### Labels -/

def encodedFront : List Char := ['x', 'n', '-', '-']

def joiner : Char := Char.ofNat 0x200D
def nonJoiner : Char := Char.ofNat 0x200C

def followsVirama (before : List Char) : Bool :=
  match before with
  | c :: _ => Text.combiningClass c.toNat == 9
  | [] => false

/-- Whether the nearest character that is not transparent has the property. -/
def nearest (p : Char → Bool) (s : List Char) : Bool :=
  match s.dropWhile isTransparent with
  | c :: _ => p c
  | [] => false

/-- Whether invisible joiners stand only where they make a difference: after a virama, or between
letters that join. The characters before a place come last first. -/
def joinersFit : (before : List Char) → List Char → Bool
  | _, [] => true
  | before, c :: rest =>
    let fits :=
      if c == joiner then followsVirama before
      else if c == nonJoiner then
        followsVirama before || (nearest joinsNext before && nearest joinsPrevious rest)
      else true
    fits && joinersFit (c :: before) rest

def isLabel (label : List Char) : Bool :=
  label.all isValid && !(label.head?.any Text.isMark) && joinersFit [] label

/-- A label in its readable form. One that is written in Punycode must hold more than ASCII, in composed
form. -/
def readLabel? (label : List Char) : Option (List Char) :=
  match Text.after? encodedFront label with
  | none => if isAscii label || isLabel label then some label else none
  | some digits =>
    if !isAscii label || 2000 < digits.length then none
    else (Punycode.decode? digits).filter fun decoded =>
      !isAscii decoded && isLabel decoded && Text.NormalForm.compose decoded == decoded

/-- The ASCII form of a label; very long ones have none. -/
def writeLabel? (label : List Char) : Option (List Char) :=
  if isAscii label then some label
  else if 1000 < label.length then none
  else some (encodedFront ++ Punycode.encode label)

/-! ### Direction -/

def runsLeft (d : Direction) : Bool := d == .rightToLeft || d == .arabicLetter

/-- Whether a name must obey the rules for names with letters that run from right to left. -/
def isBidirectional (labels : List (List Char)) : Bool :=
  labels.any fun label => label.any fun c =>
    let d := direction c
    runsLeft d || d == .arabicNumber

/-- Whether a label keeps its shape next to labels of the other direction. -/
def directionFits (label : List Char) : Bool :=
  let directions := label.map direction
  let ending := (directions.reverse.dropWhile (· == .nonspacing)).head?
  let neutral (d : Direction) :=
    d == .europeanSeparator || d == .commonSeparator || d == .europeanTerminator ||
      d == .otherNeutral || d == .boundaryNeutral || d == .nonspacing
  match directions with
  | [] => true
  | first :: _ =>
    if runsLeft first then
      directions.all (fun d => runsLeft d || d == .arabicNumber || d == .europeanNumber || neutral d) &&
        ending.any (fun d => runsLeft d || d == .europeanNumber || d == .arabicNumber) &&
        !(directions.contains .europeanNumber && directions.contains .arabicNumber)
    else if first == .leftToRight then
      directions.all (fun d => d == .leftToRight || d == .europeanNumber || neutral d) &&
        ending.any (fun d => d == .leftToRight || d == .europeanNumber)
    else false

/-! ### Names -/

def writeName? (folded : List Char) : Option (List Char) :=
  ((Text.split '.' folded).mapM readLabel?).bind fun labels =>
    if isBidirectional labels && !labels.all directionFits then none
    else (labels.mapM writeLabel?).map (Text.join '.')

def toAscii? (bytes : List UInt8) : Option (List Char) :=
  (((Text.Utf8.decode bytes).toOption.bind fold?).bind writeName?).filter
    fun name => name.all (!isForbidden ·)

/-- A name in its final form holds no character that could end a host. -/
theorem isForbidden_eq_false_of_toAscii? {bytes : List UInt8} {name : List Char}
    (h : toAscii? bytes = some name) : ∀ c ∈ name, isForbidden c = false := by
  simpa using (Option.filter_eq_some_iff.mp h).2

end KeyApproval.Domain
