/-!
# SHA-512

The hash over byte lists. A message is closed by one set bit, zeros and its length in bits, cut into
words of eight bytes, and folded into the chaining state sixteen words at a time.
-/

namespace KeyApproval.Digest.Sha512

abbrev State := Vector UInt64 8

def initial : State :=
  #v[0x6a09e667f3bcc908, 0xbb67ae8584caa73b, 0x3c6ef372fe94f82b, 0xa54ff53a5f1d36f1,
    0x510e527fade682d1, 0x9b05688c2b3e6c1f, 0x1f83d9abfb41bd6b, 0x5be0cd19137e2179]

def roundConstants : Vector UInt64 80 :=
  #v[0x428a2f98d728ae22, 0x7137449123ef65cd, 0xb5c0fbcfec4d3b2f, 0xe9b5dba58189dbbc,
    0x3956c25bf348b538, 0x59f111f1b605d019, 0x923f82a4af194f9b, 0xab1c5ed5da6d8118,
    0xd807aa98a3030242, 0x12835b0145706fbe, 0x243185be4ee4b28c, 0x550c7dc3d5ffb4e2,
    0x72be5d74f27b896f, 0x80deb1fe3b1696b1, 0x9bdc06a725c71235, 0xc19bf174cf692694,
    0xe49b69c19ef14ad2, 0xefbe4786384f25e3, 0x0fc19dc68b8cd5b5, 0x240ca1cc77ac9c65,
    0x2de92c6f592b0275, 0x4a7484aa6ea6e483, 0x5cb0a9dcbd41fbd4, 0x76f988da831153b5,
    0x983e5152ee66dfab, 0xa831c66d2db43210, 0xb00327c898fb213f, 0xbf597fc7beef0ee4,
    0xc6e00bf33da88fc2, 0xd5a79147930aa725, 0x06ca6351e003826f, 0x142929670a0e6e70,
    0x27b70a8546d22ffc, 0x2e1b21385c26c926, 0x4d2c6dfc5ac42aed, 0x53380d139d95b3df,
    0x650a73548baf63de, 0x766a0abb3c77b2a8, 0x81c2c92e47edaee6, 0x92722c851482353b,
    0xa2bfe8a14cf10364, 0xa81a664bbc423001, 0xc24b8b70d0f89791, 0xc76c51a30654be30,
    0xd192e819d6ef5218, 0xd69906245565a910, 0xf40e35855771202a, 0x106aa07032bbd1b8,
    0x19a4c116b8d2d0c8, 0x1e376c085141ab53, 0x2748774cdf8eeb99, 0x34b0bcb5e19b48a8,
    0x391c0cb3c5c95a63, 0x4ed8aa4ae3418acb, 0x5b9cca4f7763e373, 0x682e6ff3d6b2b8a3,
    0x748f82ee5defb2fc, 0x78a5636f43172f60, 0x84c87814a1f0ab72, 0x8cc702081a6439ec,
    0x90befffa23631e28, 0xa4506cebde82bde9, 0xbef9a3f7b2c67915, 0xc67178f2e372532b,
    0xca273eceea26619c, 0xd186b8c721c0c207, 0xeada7dd6cde0eb1e, 0xf57d4f7fee6ed178,
    0x06f067aa72176fba, 0x0a637dc5a2c898a6, 0x113f9804bef90dae, 0x1b710b35131c471b,
    0x28db77f523047d84, 0x32caab7b40c72493, 0x3c9ebe0a15c9bebc, 0x431d67c49c100d4c,
    0x4cc5d4becb3e42b6, 0x597f299cfc657e2a, 0x5fcb6fab3ad6faec, 0x6c44198c4a475817]

def rotateRight (x n : UInt64) : UInt64 := (x >>> n) ||| (x <<< (64 - n))

def spread (x : UInt64) : UInt64 := rotateRight x 1 ^^^ rotateRight x 8 ^^^ (x >>> 7)

def mix (x : UInt64) : UInt64 := rotateRight x 19 ^^^ rotateRight x 61 ^^^ (x >>> 6)

/-- The sixteen words of a block, continued to `n` more: each new word is made of four older ones. -/
def schedule (block : Vector UInt64 16) : (n : Nat) → Vector UInt64 (16 + n)
  | 0 => block
  | n + 1 =>
    let w := schedule block n
    w.push (w[n] + spread w[n + 1] + w[n + 9] + mix w[n + 14])

def round (s : State) (constant word : UInt64) : State :=
  let choice := (s[4] &&& s[5]) ^^^ (~~~ s[4] &&& s[6])
  let majority := (s[0] &&& s[1]) ^^^ (s[0] &&& s[2]) ^^^ (s[1] &&& s[2])
  let front := rotateRight s[0] 28 ^^^ rotateRight s[0] 34 ^^^ rotateRight s[0] 39
  let back := rotateRight s[4] 14 ^^^ rotateRight s[4] 18 ^^^ rotateRight s[4] 41
  let step := s[7] + back + choice + constant + word
  #v[step + front + majority, s[0], s[1], s[2], s[3] + step, s[4], s[5], s[6]]

def compress (s : State) (block : Vector UInt64 16) : State :=
  let words := schedule block 64
  let final := (roundConstants.zip words).foldl (fun t (k, w) => round t k w) s
  s.zipWith (· + ·) final

/-- The chaining state together with the words of a block that is not full yet. -/
structure Absorbing where
  state : State
  waiting : List UInt64

def Absorbing.feed (a : Absorbing) (word : UInt64) : Absorbing :=
  let block := (a.waiting ++ [word]).toArray
  if h : block.size = 16 then ⟨compress a.state ⟨block, h⟩, []⟩
  else ⟨a.state, a.waiting ++ [word]⟩

/-- The number whose digits in base 256 are the bytes. -/
def wordOf (bytes : List UInt8) : UInt64 := bytes.foldl (fun n b => n * 256 + b.toUInt64) 0

/-- Words of eight bytes; an incomplete one at the end is left out. -/
def words : List UInt8 → List UInt64
  | a :: b :: c :: d :: e :: f :: g :: h :: rest => wordOf [a, b, c, d, e, f, g, h] :: words rest
  | _ => []

/-- The `width` low bytes of `n`, the highest first. -/
def bigEndian (width n : Nat) : List UInt8 :=
  (List.range width).map fun i => (n / Nat.pow 256 (width - 1 - i)).toUInt8

/-- The message, a byte with its top bit set, the fewest zeros that fill a block, and the length in
bits. -/
def pad (message : List UInt8) : List UInt8 :=
  let zeros := (239 - message.length % 128) % 128
  message ++ 0x80 :: List.replicate zeros 0 ++ bigEndian 16 (8 * message.length)

def hash (message : List UInt8) : List UInt8 :=
  let final := (words (pad message)).foldl Absorbing.feed ⟨initial, []⟩
  final.state.toList.flatMap fun w => bigEndian 8 w.toNat

theorem length_bigEndian (width n : Nat) : (bigEndian width n).length = width := by
  simp [bigEndian]

theorem length_hash (message : List UInt8) : (hash message).length = 64 := by
  simp [hash, List.length_flatMap, length_bigEndian, List.map_const']

end KeyApproval.Digest.Sha512
