import KeyApproval.Digest.Sha512
import KeyApproval.Text.Hex
import KeyApproval.Text.Utf8

/-!
# Keyed hashing

HMAC over SHA-512. Every key has a block form of 128 bytes, longer ones through their hash, so a code
exists for every key and message.
-/

namespace KeyApproval.Digest.Hmac

def blockSize : Nat := 128

/-- The key filled with zeros to one block, hashed first when it is longer than a block. -/
def blockKey (key : List UInt8) : List UInt8 :=
  let short := if key.length ≤ blockSize then key else Sha512.hash key
  short ++ List.replicate (blockSize - short.length) 0

def code (key message : List UInt8) : List UInt8 :=
  let block := blockKey key
  let inner := Sha512.hash (block.map (· ^^^ 0x36) ++ message)
  Sha512.hash (block.map (· ^^^ 0x5C) ++ inner)

example : Text.Hex.encodeUpper (code (Text.Utf8.encodeString "1234")
    (Text.Utf8.encodeString "Date: Sun, 10 Jul 2022 09:41:29 GMT\ntest")) =
      ("0D137829150CFBE26CBCC48E4AE2EFA1C01CA11836DF65B5C3D6C2A7CF4C6720" ++
        "3FD457A144D4E36B96CDE87A765DD6D4C69E2213DB13D93FADF70DE560B6676B").toList := by decide +kernel

theorem length_code (key message : List UInt8) : (code key message).length = 64 :=
  Sha512.length_hash _

end KeyApproval.Digest.Hmac
