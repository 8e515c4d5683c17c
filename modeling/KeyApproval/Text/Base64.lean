/-!
# Base sixty-four

Four digits for every three bytes. Equals signs stand for the digits of bytes that the last three lack.
-/

namespace KeyApproval.Text.Base64

def digits : List Char :=
  "ABCDEFGHIJKLMNOPQRSTUVWXYZabcdefghijklmnopqrstuvwxyz0123456789+/".toList

def mark : Char := '='

def digit (n : Nat) : Char := digits.getD n mark

/-- The digits of three bytes. -/
def spell (a b c : UInt8) : List Char :=
  let n := a.toNat * 65536 + b.toNat * 256 + c.toNat
  [digit (n / 262144), digit (n / 4096 % 64), digit (n / 64 % 64), digit (n % 64)]

def encode : List UInt8 → List Char
  | [] => []
  | [a] => (spell a 0 0).take 2 ++ List.replicate 2 mark
  | [a, b] => (spell a b 0).take 3 ++ List.replicate 1 mark
  | a :: b :: c :: rest => spell a b c ++ encode rest

example : encode [0x66, 0x6F, 0x6F, 0x62, 0x61] = "Zm9vYmE=".toList := by decide

end KeyApproval.Text.Base64
