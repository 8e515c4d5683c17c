/-!
# UTF-8

Encoding, and three readings of a byte string: into pieces, into text or the position of the first
damage, and into text with every damaged stretch replaced. A damaged stretch is as long as the bytes
that could still have begun a character.
-/

namespace KeyApproval.Text.Utf8

def encodeChar (c : Char) : List UInt8 :=
  let n := c.toNat
  if n < 0x80 then [n.toUInt8]
  else if n < 0x800 then [(0xC0 + n / 0x40).toUInt8, (0x80 + n % 0x40).toUInt8]
  else if n < 0x10000 then
    [(0xE0 + n / 0x1000).toUInt8, (0x80 + n / 0x40 % 0x40).toUInt8, (0x80 + n % 0x40).toUInt8]
  else
    [(0xF0 + n / 0x40000).toUInt8, (0x80 + n / 0x1000 % 0x40).toUInt8,
      (0x80 + n / 0x40 % 0x40).toUInt8, (0x80 + n % 0x40).toUInt8]

def encode (s : List Char) : List UInt8 := s.flatMap encodeChar

def encodeString (s : String) : List UInt8 := encode s.toList

/-- What a byte string is made of: characters, stretches of `width` bytes that begin no character, and
at its very end the `width` bytes of a character that is cut off. -/
inductive Piece where
  | scalar (c : Char)
  | broken (width : Nat)
  | cut (width : Nat)
  deriving DecidableEq

def isContinuation (b : UInt8) : Bool := 0x80 ≤ b && b ≤ 0xBF

/-- Whether `second` may follow `first`: the shortest form only, no surrogate, nothing above the last
code point. -/
def mayFollow (first second : UInt8) : Bool :=
  if first == 0xE0 then 0xA0 ≤ second && second ≤ 0xBF
  else if first == 0xED then 0x80 ≤ second && second ≤ 0x9F
  else if first == 0xF0 then 0x90 ≤ second && second ≤ 0xBF
  else if first == 0xF4 then 0x80 ≤ second && second ≤ 0x8F
  else isContinuation second

/-- A character of more than one byte, of which `seen` bytes are read and `missing` are not. -/
structure Unfinished where
  first : UInt8
  value : Nat
  seen : Nat
  missing : Nat
  deriving DecidableEq

/-- Reads the first byte of a character. -/
def start (b : UInt8) : List Piece × Option Unfinished :=
  if b < 0x80 then ([.scalar (Char.ofNat b.toNat)], none)
  else if 0xC2 ≤ b && b ≤ 0xDF then ([], some ⟨b, b.toNat % 0x20, 1, 1⟩)
  else if 0xE0 ≤ b && b ≤ 0xEF then ([], some ⟨b, b.toNat % 0x10, 1, 2⟩)
  else if 0xF0 ≤ b && b ≤ 0xF4 then ([], some ⟨b, b.toNat % 8, 1, 3⟩)
  else ([.broken 1], none)

/-- Reads a byte that should continue a character. One that does not is read as a first byte. -/
def Unfinished.advance (u : Unfinished) (b : UInt8) : List Piece × Option Unfinished :=
  if (if u.seen = 1 then mayFollow u.first b else isContinuation b) then
    let value := u.value * 0x40 + b.toNat % 0x40
    if u.missing = 1 then ([.scalar (Char.ofNat value)], none)
    else ([], some { u with value, seen := u.seen + 1, missing := u.missing - 1 })
  else
    let (found, next) := start b
    (.broken u.seen :: found, next)

def piecesFrom : Option Unfinished → List UInt8 → List Piece
  | none, [] => []
  | some u, [] => [.cut u.seen]
  | none, b :: rest => (start b).1 ++ piecesFrom (start b).2 rest
  | some u, b :: rest => (u.advance b).1 ++ piecesFrom (u.advance b).2 rest

def pieces (bytes : List UInt8) : List Piece := piecesFrom none bytes

/-- The first damage: where it is, and how many bytes it spans unless the text ends within it. -/
structure Damage where
  index : Nat
  width : Option Nat
  deriving DecidableEq

def Damage.message (d : Damage) : String :=
  match d.width with
  | some n => s!"invalid utf-8 sequence of {n} bytes from index {d.index}"
  | none => s!"incomplete utf-8 byte sequence from index {d.index}"

private def collect (index : Nat) : List Piece → Except Damage (List Char)
  | [] => .ok []
  | .scalar c :: rest => do
    let tail ← collect (index + (encodeChar c).length) rest
    return c :: tail
  | .broken n :: _ => .error ⟨index, some n⟩
  | .cut _ :: _ => .error ⟨index, none⟩

/-- The text that the bytes spell, or the first place where they spell none. -/
def decode (bytes : List UInt8) : Except Damage (List Char) := collect 0 (pieces bytes)

private theorem collect_eq_ok_iff {index : Nat} {found : List Piece} {text : List Char} :
    collect index found = .ok text ↔ found = text.map .scalar := by
  induction found generalizing index text with
  | nil => cases text <;> simp [collect]
  | cons piece rest ih =>
    cases piece with
    | broken n => cases text <;> simp [collect]
    | cut n => cases text <;> simp [collect]
    | scalar c =>
      rw [collect]
      cases htail : collect (index + (encodeChar c).length) rest with
      | error d =>
        have hno (more : List Char) : rest ≠ more.map .scalar := fun h => by
          rw [ih.mpr h] at htail
          cases htail
        cases text <;> simp [bind, Except.bind, hno]
      | ok more =>
        have hinj : ∀ a b, Piece.scalar a = Piece.scalar b → a = b := fun _ _ => Piece.scalar.inj
        cases text <;>
          simp [bind, Except.bind, pure, Except.pure, ih.mp htail, List.map_inj_right hinj]

theorem decode_eq_ok_iff_pieces {bytes : List UInt8} {text : List Char} :
    decode bytes = .ok text ↔ pieces bytes = text.map .scalar :=
  collect_eq_ok_iff

def replacement : Char := Char.ofNat 0xFFFD

/-- The text with one replacement character for each damaged stretch. -/
def decodeLossy (bytes : List UInt8) : List Char :=
  (pieces bytes).map fun
    | .scalar c => c
    | .broken _ | .cut _ => replacement

end KeyApproval.Text.Utf8
