/-!
# Whole numbers in text

Decimal digits of a number, and the reading used for environment variables and options: an optional
plus sign, then ASCII digits whose value stays below a bound.
-/

namespace KeyApproval.Text

def digitValue? (c : Char) : Option Nat :=
  if c.isDigit then some (c.toNat - '0'.toNat) else none

/-- The value of a digit of base sixteen, in either case. -/
def hexValue? (c : Char) : Option Nat :=
  if c.isDigit then some (c.toNat - '0'.toNat)
  else if 'a' ≤ c ∧ c ≤ 'f' then some (c.toNat - 'a'.toNat + 10)
  else if 'A' ≤ c ∧ c ≤ 'F' then some (c.toNat - 'A'.toNat + 10)
  else none

/-- The value of a digit string, most significant digit first. -/
def digitsValue (base : Nat) (digits : List Nat) : Nat :=
  digits.foldl (fun n d => n * base + d) 0

/-- Reads a nonempty run of ASCII decimal digits and nothing else. -/
def readDigits? (s : List Char) : Option Nat :=
  if s.isEmpty then none else (s.mapM digitValue?).map (digitsValue 10)

/-- Reads an optional plus sign and decimal digits, refusing values from `bound` on. -/
def readBelow? (bound : Nat) (s : List Char) : Option Nat :=
  let digits := match s with
    | '+' :: rest => rest
    | _ => s
  (readDigits? digits).filter (· < bound)

/-- Two decimal digits, a zero in front of a single one. -/
def twoDigits (n : Nat) : String :=
  if n < 10 then "0" ++ toString n else toString n

/-- The decimal text, filled with zeros in front up to `width` characters. -/
def padLeft (width n : Nat) : String :=
  let digits := toString n
  String.ofList (List.replicate (width - digits.length) '0') ++ digits

/-! ### Reading what was written -/

theorem digitValue?_digitChar {n : Nat} (h : n < 10) : digitValue? n.digitChar = some n := by
  have hdigit : n.digitChar.isDigit = true := by simp [Nat.isDigit_digitChar, h]
  rw [digitValue?, if_pos hdigit]
  exact congrArg some (Nat.toNat_digitChar_sub_48_of_lt_ten h)

theorem readDigits?_concat {s : List Char} {c : Char} {n d : Nat} (hs : readDigits? s = some n)
    (hc : digitValue? c = some d) : readDigits? (s ++ [c]) = some (n * 10 + d) := by
  unfold readDigits? at hs ⊢
  split at hs
  · contradiction
  · obtain ⟨digits, hdigits, rfl⟩ := Option.map_eq_some_iff.mp hs
    simp [List.mapM_append, hdigits, hc, digitsValue]

/-- The decimal digits of a number read back as that number. -/
theorem readDigits?_toDigits (n : Nat) : readDigits? (Nat.toDigits 10 n) = some n := by
  induction n using Nat.strongRecOn with
  | ind n ih =>
    rw [Nat.toDigits_eq_if (by decide)]
    split
    next h => simp [readDigits?, digitValue?_digitChar h, digitsValue]
    next h =>
      have hlast := digitValue?_digitChar (Nat.mod_lt n (show 10 > 0 by decide))
      rw [readDigits?_concat (ih (n / 10) (by omega)) hlast]
      exact congrArg some (Nat.div_add_mod' n 10)

/-- Zeros in front do not change what is read. -/
theorem readDigits?_replicate_append {s : List Char} (h : s ≠ []) (k : Nat) :
    readDigits? (List.replicate k '0' ++ s) = readDigits? s := by
  induction k with
  | zero => rfl
  | succ k ih =>
    have hzero : digitValue? '0' = some 0 := rfl
    have hempty : (List.replicate k '0' ++ s).isEmpty = false := by simp [h]
    rw [List.replicate_succ, List.cons_append, ← ih]
    unfold readDigits?
    rw [hempty, List.isEmpty_cons, List.mapM_cons, hzero]
    cases (List.replicate k '0' ++ s).mapM digitValue? with
    | none => rfl
    | some digits => rfl

theorem toList_padLeft (width n : Nat) :
    (padLeft width n).toList =
      List.replicate (width - (Nat.toDigits 10 n).length) '0' ++ Nat.toDigits 10 n := by
  have hdigits : (toString n).toList = Nat.toDigits 10 n := by rw [Nat.toString_eq_repr, Nat.toList_repr]
  rw [padLeft, String.toList_append, String.toList_ofList, hdigits, ← String.length_toList, hdigits]

theorem readDigits?_padLeft (width n : Nat) : readDigits? (padLeft width n).toList = some n := by
  rw [toList_padLeft, readDigits?_replicate_append Nat.toDigits_ne_nil, readDigits?_toDigits]

theorem twoDigits_eq_padLeft (n : Nat) : twoDigits n = padLeft 2 n := by
  have hlength : (toString n).length = (Nat.toDigits 10 n).length := by
    rw [Nat.toString_eq_repr, ← String.length_toList, Nat.toList_repr]
  unfold twoDigits padLeft
  dsimp only
  by_cases h : n < 10
  · rw [if_pos h, hlength, Nat.toDigits_of_lt_base h]
    rfl
  · have htwo : 2 ≤ (Nat.toDigits 10 n).length := by
      rw [Nat.toDigits_eq_if (by decide), if_neg h, List.length_append]
      exact Nat.add_le_add_right Nat.length_toDigits_pos 1
    have hnone : 2 - (Nat.toDigits 10 n).length = 0 := by omega
    rw [if_neg h, hlength, hnone]
    simp

theorem toString_injective {m n : Nat} (h : toString m = toString n) : m = n := by
  rw [Nat.toString_eq_repr, Nat.toString_eq_repr] at h
  have hread := congrArg (fun s : String => readDigits? s.toList) h
  simp only [Nat.toList_repr, readDigits?_toDigits] at hread
  exact Option.some.inj hread

end KeyApproval.Text
