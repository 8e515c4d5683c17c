import KeyApproval.Text.Number

/-!
# Base sixteen

Two digits for each byte, the high half first.
-/

namespace KeyApproval.Text.Hex

def upperDigit (n : Nat) : Char :=
  if n < 10 then Char.ofNat ('0'.toNat + n) else Char.ofNat ('A'.toNat + (n - 10))

def lowerDigit (n : Nat) : Char :=
  if n < 10 then Char.ofNat ('0'.toNat + n) else Char.ofNat ('a'.toNat + (n - 10))

def encodeUpper (bytes : List UInt8) : List Char :=
  bytes.flatMap fun b => [upperDigit (b.toNat / 16), upperDigit (b.toNat % 16)]

def encodeLower (bytes : List UInt8) : List Char :=
  bytes.flatMap fun b => [lowerDigit (b.toNat / 16), lowerDigit (b.toNat % 16)]

/-- Refuses an odd digit at the end and anything that is no digit; both cases are read. -/
def decode? : List Char → Option (List UInt8)
  | [] => some []
  | [_] => none
  | a :: b :: rest => do
    let high ← hexValue? a
    let low ← hexValue? b
    let tail ← decode? rest
    return (high * 16 + low).toUInt8 :: tail

/-- The digits of a number in lower case, without zeros in front. -/
def ofNat (n : Nat) : List Char := (Nat.toDigits 16 n).map Char.toLower

def upperDigits : List Char := "0123456789ABCDEF".toList

theorem upperDigit_mem {n : Nat} (h : n < 16) : upperDigit n ∈ upperDigits := by
  revert n
  decide

theorem mem_upperDigits {bytes : List UInt8} {c : Char} (h : c ∈ encodeUpper bytes) :
    c ∈ upperDigits := by
  obtain ⟨b, -, hc⟩ := List.mem_flatMap.mp h
  have hb : b.toNat < 256 := b.toNat_lt
  simp only [List.mem_cons, List.not_mem_nil, or_false] at hc
  rcases hc with rfl | rfl
  · exact upperDigit_mem (by omega)
  · exact upperDigit_mem (by omega)

theorem length_encodeUpper (bytes : List UInt8) :
    (encodeUpper bytes).length = 2 * bytes.length := by
  induction bytes with
  | nil => rfl
  | cons b rest ih =>
    rw [encodeUpper] at ih
    rw [encodeUpper, List.flatMap_cons, List.length_append, ih, List.length_cons]
    simp only [List.length_cons, List.length_nil]
    omega

theorem hexValue?_upperDigit {n : Nat} (h : n < 16) : hexValue? (upperDigit n) = some n := by
  revert n
  decide

/-- What is written is read back. -/
theorem decode?_encodeUpper (bytes : List UInt8) : decode? (encodeUpper bytes) = some bytes := by
  induction bytes with
  | nil => rfl
  | cons b rest ih =>
    have hbound : b.toNat < 256 := b.toNat_lt
    have hhigh := hexValue?_upperDigit (n := b.toNat / 16) (by omega)
    have hlow := hexValue?_upperDigit (n := b.toNat % 16) (by omega)
    have hbyte : (b.toNat / 16 * 16 + b.toNat % 16).toUInt8 = b := by
      rw [Nat.div_add_mod', Nat.toUInt8, UInt8.ofNat_toNat]
    rw [encodeUpper] at ih
    rw [encodeUpper, List.flatMap_cons, List.cons_append, List.cons_append, List.nil_append, decode?, hhigh,
      hlow, ih]
    simp only [Option.bind_eq_bind, Option.bind_some, Option.pure_def, hbyte]

end KeyApproval.Text.Hex
