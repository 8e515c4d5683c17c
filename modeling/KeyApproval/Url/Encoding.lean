import KeyApproval.Text.Hex
import KeyApproval.Text.Utf8

/-!
# Percent encoding

Each part of a URL has a set of ASCII characters that it cannot hold as they are. These, control
characters and everything beyond ASCII are written byte by byte as a percent sign and two digits.
-/

namespace KeyApproval.Url

/-- Control characters and everything beyond ASCII. -/
def isUnprintable (c : Char) : Bool := c.toNat < 0x20 || 0x7F ≤ c.toNat

/-- A part of a URL, by the printable characters that it encodes. -/
structure EncodingSet where
  characters : List Char

namespace EncodingSet

def controls : EncodingSet := ⟨[]⟩
def fragment : EncodingSet := ⟨[' ', '"', '<', '>', '\x60']⟩
def query : EncodingSet := ⟨[' ', '"', '#', '<', '>']⟩
def specialQuery : EncodingSet := ⟨'\'' :: query.characters⟩
def path : EncodingSet := ⟨['#', '?', '\x7b', '\x7d'] ++ fragment.characters⟩
def userinfo : EncodingSet :=
  ⟨['/', ':', ';', '=', '@', '[', '\\', ']', '^', '|'] ++ path.characters⟩

def encodes (set : EncodingSet) (c : Char) : Bool := isUnprintable c || set.characters.contains c

end EncodingSet

def encodeByte (b : UInt8) : List Char := '%' :: Text.Hex.encodeUpper [b]

def percentEncode (set : EncodingSet) (s : List Char) : List Char :=
  s.flatMap fun c => if set.encodes c then (Text.Utf8.encodeChar c).flatMap encodeByte else [c]

/-- Reads a percent sign and two digits as a byte; any other percent sign stands for itself. -/
def percentDecode : List UInt8 → List UInt8
  | [] => []
  | [a] => [a]
  | [a, b] => [a, b]
  | a :: b :: c :: rest =>
    match a == 0x25, Text.hexValue? (Char.ofNat b.toNat), Text.hexValue? (Char.ofNat c.toNat) with
    | true, some high, some low => (high * 16 + low).toUInt8 :: percentDecode rest
    | _, _, _ => a :: percentDecode (b :: c :: rest)

end KeyApproval.Url
