import KeyApproval.Text.Blank
import KeyApproval.Text.Number
import Mathlib.Data.List.DropRight

/-!
# Numerals

A numeral is what a number looks like in an environment variable: blanks, perhaps a plus sign, decimal digits,
and blanks again. Trimming a text and reading a number below some bound accepts the numerals of these numbers
and nothing else, whatever zeros they begin with.
-/

namespace KeyApproval.Text

/-- The texts that mean a number. -/
inductive IsNumeral : List Char → Nat → Prop where
  | mk {before sign digits after : List Char} (hbefore : ∀ c ∈ before, isBlank c = true)
      (hsign : sign = [] ∨ sign = ['+']) (hne : digits ≠ []) (hdigits : ∀ c ∈ digits, c.isDigit = true)
      (hafter : ∀ c ∈ after, isBlank c = true) :
      IsNumeral (before ++ (sign ++ digits) ++ after) (Nat.ofDigitChars 10 digits 0)

variable {s : List Char} {n : Nat}

/-! ### Trimming -/

theorem dropEndWhile_eq_rdropWhile (p : Char → Bool) (s : List Char) : dropEndWhile p s = s.rdropWhile p := rfl

theorem exists_trim_append (s : List Char) :
    ∃ before after, s = before ++ trim s ++ after ∧ (∀ c ∈ before, isBlank c = true) ∧
      ∀ c ∈ after, isBlank c = true := by
  refine ⟨s.takeWhile isBlank, (s.dropWhile isBlank).rtakeWhile isBlank, ?_, fun c => List.mem_takeWhile_imp,
    fun c => List.mem_rtakeWhile_imp⟩
  rw [trim, dropEndWhile_eq_rdropWhile, List.append_assoc, List.rdropWhile_append_rtakeWhile,
    List.takeWhile_append_dropWhile]

theorem dropWhile_append_eq {p : Char → Bool} {front rest : List Char} (hfront : ∀ c ∈ front, p c = true)
    (hne : s ≠ []) (hs : ∀ c ∈ s, p c = false) : (front ++ (s ++ rest)).dropWhile p = s ++ rest := by
  obtain ⟨c, tail, rfl⟩ := List.exists_cons_of_ne_nil hne
  rw [List.dropWhile_append_of_pos hfront, List.cons_append,
    List.dropWhile_cons_of_neg (by simp [hs c List.mem_cons_self])]

/-- Trimming takes all the blanks away that stand around a word. -/
theorem trim_append {before after : List Char} (hbefore : ∀ c ∈ before, isBlank c = true) (hne : s ≠ [])
    (hs : ∀ c ∈ s, isBlank c = false) (hafter : ∀ c ∈ after, isBlank c = true) :
    trim (before ++ s ++ after) = s := by
  -- what stands at the end is at the front of the reverse
  have hreverse : (s ++ after).reverse = after.reverse ++ (s.reverse ++ []) := by
    rw [List.reverse_append, List.append_nil]
  rw [trim, List.append_assoc, dropWhile_append_eq hbefore hne hs, dropEndWhile, hreverse,
    dropWhile_append_eq (by simpa using hafter) (by simpa using hne) (by simpa using hs), List.append_nil,
    List.reverse_reverse]

theorem isBlank_of_isDigit {c : Char} (h : c.isDigit = true) : isBlank c = false := by
  have hrange : 48 ≤ c.toNat ∧ c.toNat ≤ 57 := Char.isDigit_iff_toNat.mp h
  simp only [isBlank, Bool.or_eq_false_iff, Bool.and_eq_false_iff, beq_eq_false_iff_ne, decide_eq_false_iff_not]
  omega

theorem isBlank_of_mem_sign {sign : List Char} (h : sign = [] ∨ sign = ['+']) :
    ∀ c ∈ sign, isBlank c = false := by
  intro c hc
  cases h with
  | inl hnil => exact absurd (hnil ▸ hc) List.not_mem_nil
  | inr hplus =>
    rw [hplus, List.mem_singleton] at hc
    rw [hc]
    decide

/-! ### Reading -/

theorem digitValue?_eq_some_iff {c : Char} {d : Nat} :
    digitValue? c = some d ↔ c.isDigit = true ∧ c.toNat - '0'.toNat = d := by
  rw [digitValue?]
  by_cases hc : c.isDigit = true
  · rw [if_pos hc, Option.some.injEq]
    exact (and_iff_right hc).symm
  · rw [if_neg hc]
    exact iff_of_false (by simp) fun h => hc h.1

theorem mapM_digitValue? (h : ∀ c ∈ s, c.isDigit = true) :
    s.mapM digitValue? = some (s.map fun c => c.toNat - '0'.toNat) := by
  induction s with
  | nil => rfl
  | cons c rest ih =>
    have hc := digitValue?_eq_some_iff.mpr ⟨h c List.mem_cons_self, rfl⟩
    rw [List.mapM_cons, hc, ih fun d hd => h d (List.mem_cons_of_mem c hd)]
    rfl

theorem isDigit_of_mapM_digitValue? {digits : List Nat} (h : s.mapM digitValue? = some digits) :
    ∀ c ∈ s, c.isDigit = true := by
  induction s generalizing digits with
  | nil => exact fun c hc => absurd hc List.not_mem_nil
  | cons c rest ih =>
    rw [List.mapM_cons] at h
    cases hc : digitValue? c with
    | none =>
      rw [hc] at h
      contradiction
    | some d =>
      cases hrest : rest.mapM digitValue? with
      | none =>
        rw [hc, hrest] at h
        contradiction
      | some later =>
        intro e he
        cases List.mem_cons.mp he with
        | inl heq => exact heq ▸ (digitValue?_eq_some_iff.mp hc).1
        | inr hmem => exact ih hrest e hmem

theorem digitsValue_map (s : List Char) :
    digitsValue 10 (s.map fun c => c.toNat - '0'.toNat) = Nat.ofDigitChars 10 s 0 := by
  rw [digitsValue, List.foldl_map, Nat.ofDigitChars_eq_foldl]
  simp only [Nat.mul_comm]

theorem readDigits?_eq_some_iff :
    readDigits? s = some n ↔ s ≠ [] ∧ (∀ c ∈ s, c.isDigit = true) ∧ Nat.ofDigitChars 10 s 0 = n := by
  rw [readDigits?]
  by_cases hempty : s = []
  · rw [if_pos (List.isEmpty_iff.mpr hempty)]
    exact iff_of_false (by simp) fun h => h.1 hempty
  · rw [if_neg (by simpa using hempty)]
    constructor
    · intro h
      obtain ⟨digits, hdigits, rfl⟩ := Option.map_eq_some_iff.mp h
      have hall := isDigit_of_mapM_digitValue? hdigits
      rw [mapM_digitValue? hall, Option.some.injEq] at hdigits
      exact ⟨hempty, hall, by rw [← hdigits, digitsValue_map]⟩
    · rintro ⟨-, hall, rfl⟩
      rw [mapM_digitValue? hall, Option.map_some, digitsValue_map]

theorem readBelow?_eq_some_iff {bound : Nat} :
    readBelow? bound s = some n ↔ n < bound ∧ ∃ sign digits, s = sign ++ digits ∧ (sign = [] ∨ sign = ['+']) ∧
      readDigits? digits = some n := by
  unfold readBelow?
  dsimp only
  rw [Option.filter_eq_some_iff, decide_eq_true_eq, and_comm, and_congr_right_iff]
  intro _
  split
  next rest =>
    constructor
    · exact fun h => ⟨['+'], rest, rfl, .inr rfl, h⟩
    · rintro ⟨sign, digits, hs, hsign, h⟩
      cases hsign with
      | inl hsign =>
        -- without a sign the plus would be a digit
        rw [hsign, List.nil_append] at hs
        have hplus := (readDigits?_eq_some_iff.mp h).2.1 '+' (hs ▸ List.mem_cons_self)
        exact absurd hplus (by decide)
      | inr hsign =>
        rw [hsign, List.singleton_append, List.cons.injEq] at hs
        rwa [hs.2]
  next hplus =>
    constructor
    · exact fun h => ⟨[], s, rfl, .inl rfl, h⟩
    · rintro ⟨sign, digits, hs, hsign, h⟩
      cases hsign with
      | inl hsign => rwa [hs, hsign]
      | inr hsign => exact absurd (hs.trans (congrArg (· ++ digits) hsign)) (hplus digits)

/-- Reading a trimmed text accepts the numerals of the numbers below the bound. -/
theorem readBelow?_trim_eq_some_iff {bound : Nat} :
    readBelow? bound (trim s) = some n ↔ IsNumeral s n ∧ n < bound := by
  rw [readBelow?_eq_some_iff, and_comm, and_congr_left_iff]
  intro _
  constructor
  · rintro ⟨sign, digits, htrim, hsign, h⟩
    obtain ⟨hne, hdigits, rfl⟩ := readDigits?_eq_some_iff.mp h
    obtain ⟨before, after, hs, hbefore, hafter⟩ := exists_trim_append s
    rw [hs, htrim]
    exact .mk hbefore hsign hne hdigits hafter
  · intro h
    cases h with
    | @mk before sign digits after hbefore hsign hne hdigits hafter =>
      have hword : ∀ c ∈ sign ++ digits, isBlank c = false := fun c hc =>
        (List.mem_append.mp hc).elim (isBlank_of_mem_sign hsign c) fun h => isBlank_of_isDigit (hdigits c h)
      refine ⟨sign, digits, trim_append hbefore (by simp [hne]) hword hafter, hsign, ?_⟩
      exact readDigits?_eq_some_iff.mpr ⟨hne, hdigits, rfl⟩

end KeyApproval.Text
