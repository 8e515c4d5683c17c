import KeyApproval.Decimal.Rounding
import KeyApproval.Text.Number

/-!
# JSON values

Values as they are written: a number keeps its digits, so that an identifier can be told from a float of
the same size, and an object keeps all of its members, of which the last of a name counts.
-/

namespace KeyApproval.Json

/-- Why a text could not be read: it ended too early, it breaks the grammar, or it is well-formed but
not of the form asked for. -/
inductive Error where
  | endOfText
  | malformed
  | wrongShape
  deriving DecidableEq

def Error.message : Error → String
  | endOfText => "the text ended too early"
  | malformed => "the text is malformed"
  | wrongShape => "the value has the wrong shape"

/-- A number as written. Digits run from the most significant one. -/
structure Numeral where
  negative : Bool
  whole : List Nat
  fraction : List Nat
  exponent : Option Int
  deriving DecidableEq

/-- The value of a literal without sign, fraction and exponent that fits 64 bits. -/
def Numeral.natural? (n : Numeral) : Option UInt64 :=
  let value := Text.digitsValue 10 n.whole
  if n.negative ∨ n.fraction ≠ [] ∨ n.exponent.isSome ∨ UInt64.size ≤ value then none
  else some value.toUInt64

/-- Takes digits into a 64-bit significand until one does not fit; returns how many are left. -/
def fillSignificand : Nat → List Nat → Nat × Nat
  | m, [] => (m, 0)
  | m, d :: rest =>
    if m * 10 + d < UInt64.size then fillSignificand (m * 10 + d) rest else (m, rest.length + 1)

/-- Whether the literal is an integer of at most 64 bits, to which the float range does not apply. -/
def Numeral.isSmallInteger (n : Numeral) : Bool :=
  n.fraction.isEmpty && n.exponent.isNone && (fillSignificand 0 n.whole).2 == 0

/-- Whether a float can hold the literal: a significand of at most 64 bits, times a power of ten, must
not round to infinity. Powers above the 308th are refused unless the significand is zero. -/
def Numeral.inFloatRange (n : Numeral) : Bool :=
  let (head, skipped) := fillSignificand 0 n.whole
  let (significand, ignored) := fillSignificand head n.fraction
  let power : Int := n.exponent.getD 0 + skipped - (n.fraction.length - ignored : Nat)
  if significand = 0 ∨ power < 0 then true
  else if 308 < power then false
  else
    Decimal.roundToBits 53 significand * Decimal.roundToBits 53 (Decimal.tenTo power.toNat) <
      (Decimal.twoTo 54 - 1) * Decimal.twoTo 970

inductive Value where
  | null
  | bool (b : Bool)
  | number (n : Numeral)
  | string (s : String)
  | array (items : List Value)
  | object (members : List (String × Value))

/-- The last member of that name. -/
def Value.member? (name : String) : Value → Option Value
  | object members => (members.reverse.find? fun m => m.1 == name).map (·.2)
  | _ => none

def Value.natural? : Value → Option UInt64
  | number n => n.natural?
  | _ => none

def Value.text? : Value → Option String
  | string s => some s
  | _ => none

end KeyApproval.Json
