import KeyApproval.Text.Split
import KeyApproval.Toml.Value

/-!
# TOML scalars

Booleans, numbers, dates and times, each written as one word. A word that is none of these is refused.
-/

namespace KeyApproval.Toml

open Text

/-! ### Integers -/

/-- The digits of a number in which single underscores may stand between two digits. -/
def readDigitGroups? (base : Nat) (s : List Char) : Option (List Nat) :=
  let groups := split '_' s
  if groups.any (·.isEmpty) then none
  else (groups.flatten.mapM hexValue?).filter (·.all (· < base))

/-- The sign and what it stands before. -/
def splitSign (s : List Char) : Option Bool × List Char :=
  match s with
  | '+' :: rest => (some false, rest)
  | '-' :: rest => (some true, rest)
  | _ => (none, s)

/-- Decimal digits of which a zero in front must be the only one. -/
def readPlainDigits? (s : List Char) : Option (List Nat) :=
  (readDigitGroups? 10 s).filter fun digits => digits.length == 1 || digits.head? != some 0

def inIntegerRange (i : Int) : Bool := -0x8000000000000000 ≤ i && i < 0x8000000000000000

def readInteger? (s : List Char) : Option Int :=
  let value : Option Int := match s with
    | '0' :: 'x' :: digits => (readDigitGroups? 16 digits).map fun d => digitsValue 16 d
    | '0' :: 'o' :: digits => (readDigitGroups? 8 digits).map fun d => digitsValue 8 d
    | '0' :: 'b' :: digits => (readDigitGroups? 2 digits).map fun d => digitsValue 2 d
    | _ =>
      let (sign, digits) := splitSign s
      (readPlainDigits? digits).map fun d =>
        let n : Int := digitsValue 10 d
        if sign == some true then -n else n
  value.filter inIntegerRange

/-! ### Floats -/

/-- The exponent of a float; zeros in front are allowed. -/
def readExponent? (s : List Char) : Option Int :=
  let (sign, digits) := splitSign s
  (readDigitGroups? 10 digits).map fun d =>
    let n : Int := digitsValue 10 d
    if sign == some true then -n else n

def isExponentMark (c : Char) : Bool := c == 'e' || c == 'E'

/-- A number with a fraction, an exponent, or both, that does not round to infinity. -/
def readDecimalFloat? (s : List Char) : Option Decimal.Binary64 := do
  let (sign, unsigned) := splitSign s
  let (mantissa, exponentText) := (unsigned.takeWhile (!isExponentMark ·),
    unsigned.dropWhile (!isExponentMark ·))
  let exponent ← match exponentText with
    | [] => some 0
    | _ :: rest => readExponent? rest
  let (wholeText, fraction) ← match splitFirst '.' mantissa with
    | none => if exponentText.isEmpty then none else some (mantissa, [])
    | some (whole, digits) => (readDigitGroups? 10 digits).map fun d => (whole, d)
  let whole ← readPlainDigits? wholeText
  match Decimal.Binary64.ofDecimal (sign == some true) (whole ++ fraction)
      (exponent - fraction.length) with
  | .infinite _ => none
  | x => some x

def readFloat? (s : List Char) : Option Decimal.Binary64 :=
  let (sign, unsigned) := splitSign s
  if unsigned == ['i', 'n', 'f'] then some (.infinite (sign == some true))
  else if unsigned == ['n', 'a', 'n'] then some .nan
  else readDecimalFloat? s

/-! ### Dates and times -/

/-- A number of exactly that many digits. -/
def readFixed? (width : Nat) (s : List Char) : Option Nat :=
  if s.length = width then readDigits? s else none

def isLeapYear (year : Nat) : Bool := year % 4 == 0 && (year % 100 != 0 || year % 400 == 0)

def daysInMonth (year month : Nat) : Nat :=
  if month = 2 then (if isLeapYear year then 29 else 28)
  else if [4, 6, 9, 11].contains month then 30
  else 31

def readDate? (s : List Char) : Option Date :=
  match split '-' s with
  | [y, m, d] => do
    let year ← readFixed? 4 y
    let month ← readFixed? 2 m
    let day ← readFixed? 2 d
    if 1 ≤ month ∧ month ≤ 12 ∧ 1 ≤ day ∧ day ≤ daysInMonth year month then
      some ⟨year, month, day⟩
    else none
  | _ => none

/-- Nanoseconds from digits after a point; those after the ninth are dropped. -/
def readNanoseconds? (s : List Char) : Option Nat :=
  (readDigits? s).map fun _ => ((readDigits? (s.take 9)).getD 0) * Decimal.tenTo (9 - s.length)

/-- Seconds, which may have a fraction. -/
def readSeconds? (s : List Char) : Option (Nat × Nat) :=
  match splitFirst '.' s with
  | none => (readFixed? 2 s).map (·, 0)
  | some (whole, fraction) => do
    let second ← readFixed? 2 whole
    let nanosecond ← readNanoseconds? fraction
    some (second, nanosecond)

/-- A time of day; the seconds may be left out. -/
def readTime? (s : List Char) : Option Time := do
  let (h, m, rest) ← match split ':' s with
    | [h, m] => some (h, m, none)
    | [h, m, rest] => some (h, m, some rest)
    | _ => none
  let hour ← readFixed? 2 h
  let minute ← readFixed? 2 m
  let (second, nanosecond) ← match rest with
    | none => some (0, 0)
    | some text => readSeconds? text
  if hour < 24 ∧ minute < 60 ∧ second ≤ 60 then some ⟨hour, minute, second, nanosecond⟩ else none

def readOffset? (s : List Char) : Option Offset :=
  match s with
  | [z] => if z == 'Z' || z == 'z' then some .zulu else none
  | sign :: rest =>
    match split ':' rest with
    | [h, m] => do
      let hour ← readFixed? 2 h
      let minute ← readFixed? 2 m
      let n : Int := hour * 60 + minute
      if hour < 24 ∧ minute < 60 then
        some (.minutes (if sign == '-' then -n else n))
      else none
    | _ => none
  | [] => none

def startsOffset (c : Char) : Bool := c == 'Z' || c == 'z' || c == '+' || c == '-'

def readDatetime? (s : List Char) : Option Datetime :=
  let isSeparator (c : Char) := c == 'T' || c == 't' || c == ' '
  let dateText := s.takeWhile (!isSeparator ·)
  match s.dropWhile (!isSeparator ·) with
  | [] =>
    match readDate? s with
    | some date => some ⟨some date, none, none⟩
    | none => (readTime? s).map fun time => ⟨none, some time, none⟩
  | _ :: rest => do
    let date ← readDate? dateText
    let time ← readTime? (rest.takeWhile (!startsOffset ·))
    match rest.dropWhile (!startsOffset ·) with
    | [] => some ⟨some date, some time, none⟩
    | offsetText =>
      let offset ← readOffset? offsetText
      some ⟨some date, some time, some offset⟩

/-! ### Words -/

def readWord? (s : List Char) : Option Value :=
  if s == ['t', 'r', 'u', 'e'] then some (.boolean true)
  else if s == ['f', 'a', 'l', 's', 'e'] then some (.boolean false)
  else match readInteger? s with
    | some i => some (.integer i)
    | none =>
      match readFloat? s with
      | some x => some (.float x)
      | none => (readDatetime? s).map .datetime

end KeyApproval.Toml
