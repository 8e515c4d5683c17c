import KeyApproval.Proofs.JsonStrings
import Mathlib.Data.List.TakeWhile

/-!
# The numbers of JSON

How numbers are spelled, part by part, and that the reader knows these spellings and no others. A number
has no closing byte, so it is read as far as it goes, and what follows must not go on with it.
-/

namespace KeyApproval.Json

/-! ### The spelling of numbers -/

/-- One digit or more. -/
structure Digits (s : List UInt8) (digits : List Nat) : Prop where
  ne_nil : s ≠ []
  range : ∀ b ∈ s, 0x30 ≤ b.toNat ∧ b.toNat ≤ 0x39
  values : digits = s.map fun b => b.toNat - 0x30

/-- Digits without a zero in front of others. -/
structure Whole (s : List UInt8) (digits : List Nat) : Prop extends Digits s digits where
  shortest : digits.head? = some 0 → digits = [0]

inductive Sign : List UInt8 → Bool → Prop where
  | none : Sign [] false
  | minus : Sign [0x2D] true

inductive Fraction : List UInt8 → List Nat → Prop where
  | none : Fraction [] []
  | some {s : List UInt8} {digits : List Nat} : Digits s digits → Fraction (0x2E :: s) digits

/-- The sign of an exponent, which may be left out. -/
inductive Direction : List UInt8 → Int → Prop where
  | none : Direction [] 1
  | plus : Direction [0x2B] 1
  | minus : Direction [0x2D] (-1)

inductive Exponent : List UInt8 → Option Int → Prop where
  | none : Exponent [] none
  | some {e : UInt8} {sign s : List UInt8} {direction : Int} {digits : List Nat} : e = 0x65 ∨ e = 0x45 →
      Direction sign direction → Digits s digits →
      Exponent (e :: sign ++ s) (some (direction * Text.digitsValue 10 digits))

inductive SpellsNumber : List UInt8 → Numeral → Prop where
  | mk {s w f e : List UInt8} {negative : Bool} {whole fraction : List Nat} {exponent : Option Int} :
      Sign s negative → Whole w whole → Fraction f fraction → Exponent e exponent →
      SpellsNumber (s ++ (w ++ (f ++ e))) ⟨negative, whole, fraction, exponent⟩

/-! ### Reading numbers -/

theorem isDigit_iff {b : UInt8} : isDigit b = true ↔ 0x30 ≤ b.toNat ∧ b.toNat ≤ 0x39 := by
  simp [isDigit, UInt8.le_iff_toNat_le]

/-- What follows does not begin with such a byte. -/
def Free (p : UInt8 → Prop) (rest : List UInt8) : Prop := ∀ b ∈ rest.head?, ¬ p b

theorem Free.mono {p q : UInt8 → Prop} {rest : List UInt8} (h : Free p rest) (hpq : ∀ b, q b → p b) :
    Free q rest := fun b hb hq => h b hb (hpq b hq)

theorem readDigits_append {s : List UInt8} {digits : List Nat} (h : Digits s digits) {rest : List UInt8}
    (hrest : Free (isDigit · = true) rest) : readDigits (s ++ rest) = .ok (digits, rest) := by
  have hdigit : ∀ b ∈ s, isDigit b = true := fun b hb => isDigit_iff.mpr (h.range b hb)
  have hnone : rest.takeWhile isDigit = [] ∧ rest.dropWhile isDigit = rest := by
    cases rest with
    | nil => exact ⟨rfl, rfl⟩
    | cons b rest =>
      have hb : ¬ isDigit b = true := hrest b rfl
      exact ⟨List.takeWhile_cons_of_neg hb, List.dropWhile_cons_of_neg hb⟩
  have hread : digitsOf (s ++ rest) = digits ∧ afterDigits (s ++ rest) = rest := by
    rw [digitsOf, afterDigits, List.takeWhile_append_of_pos hdigit, List.dropWhile_append_of_pos hdigit,
      hnone.1, hnone.2, List.append_nil]
    exact ⟨h.values.symm, rfl⟩
  obtain ⟨b, s, rfl⟩ := List.exists_cons_of_ne_nil h.ne_nil
  refine (if_pos (hdigit b List.mem_cons_self)).trans ?_
  rw [hread.1, hread.2]

theorem exists_of_readDigits {s : List UInt8} {digits : List Nat} {rest : List UInt8}
    (h : readDigits s = .ok (digits, rest)) : ∃ text, s = text ++ rest ∧ Digits text digits := by
  cases s with
  | nil => cases h
  | cons b s =>
    by_cases hb : isDigit b = true
    · obtain ⟨hdigits, hrest⟩ := Prod.mk.inj (Except.ok.inj ((if_pos hb).symm.trans h))
      refine ⟨(b :: s).takeWhile isDigit, ?_, ?_, ?_, hdigits.symm⟩
      · rw [← hrest]
        exact List.takeWhile_append_dropWhile.symm
      · rw [List.takeWhile_cons_of_pos hb]
        exact List.cons_ne_nil _ _
      · exact fun c hc => isDigit_iff.mp (List.mem_takeWhile_imp hc)
    · exact absurd ((if_neg hb).symm.trans h) (by simp)

theorem readWhole_append {s : List UInt8} {digits : List Nat} (h : Whole s digits) {rest : List UInt8}
    (hrest : Free (isDigit · = true) rest) : readWhole (s ++ rest) = .ok (digits, rest) := by
  apply bind_eq_ok_iff.mpr
  refine ⟨(digits, rest), readDigits_append h.toDigits hrest, ?_⟩
  dsimp only
  split
  · cases h.shortest rfl
  · rfl

theorem exists_of_readWhole {s : List UInt8} {digits : List Nat} {rest : List UInt8}
    (h : readWhole s = .ok (digits, rest)) : ∃ text, s = text ++ rest ∧ Whole text digits := by
  obtain ⟨⟨digits', rest'⟩, hread, hresult⟩ := bind_eq_ok_iff.mp h
  obtain ⟨text, rfl, htext⟩ := exists_of_readDigits hread
  dsimp only at hresult
  split at hresult
  · cases hresult
  · next hshort =>
    cases hresult
    refine ⟨text, rfl, htext, fun hzero => ?_⟩
    cases digits with
    | nil => cases hzero
    | cons d more =>
      obtain rfl := Option.some.inj hzero
      cases more with
      | nil => rfl
      | cons d more => exact absurd rfl (hshort d more)

theorem readFraction_of_ne {s : List UInt8} (h : Free (· = 0x2E) s) : readFraction s = .ok ([], s) := by
  unfold readFraction
  split
  · exact absurd rfl (h _ rfl)
  · rfl

theorem readFraction_append {s : List UInt8} {digits : List Nat} (h : Fraction s digits) {rest : List UInt8}
    (hrest : Free (fun b => isDigit b = true ∨ b = 0x2E) rest) :
    readFraction (s ++ rest) = .ok (digits, rest) := by
  cases h with
  | none => exact readFraction_of_ne (hrest.mono fun _ => .inr)
  | some h => exact readDigits_append h (hrest.mono fun _ => .inl)

theorem exists_of_readFraction {s : List UInt8} {digits : List Nat} {rest : List UInt8}
    (h : readFraction s = .ok (digits, rest)) : ∃ text, s = text ++ rest ∧ Fraction text digits := by
  unfold readFraction at h
  split at h
  · obtain ⟨text, rfl, htext⟩ := exists_of_readDigits h
    exact ⟨0x2E :: text, rfl, .some htext⟩
  · cases h
    exact ⟨[], rfl, .none⟩

/-- The sign in front of an exponent and the bytes after it. -/
def splitDirection (s : List UInt8) : Int × List UInt8 :=
  match s with
  | 0x2B :: t => (1, t)
  | 0x2D :: t => (-1, t)
  | _ => (1, s)

theorem readExponent_of_ne {s : List UInt8} (h : Free (fun e => e = 0x65 ∨ e = 0x45) s) :
    readExponent s = .ok (none, s) := by
  cases s with
  | nil => rfl
  | cons e s => exact if_neg (by simpa using h e rfl)

theorem readExponent_eq {e : UInt8} (h : e = 0x65 ∨ e = 0x45) (s : List UInt8) :
    readExponent (e :: s) = (do
      let (value, rest) ← readDigits (splitDirection s).2
      return (some ((splitDirection s).1 * Text.digitsValue 10 value), rest)) :=
  if_pos (by simpa using h)

theorem splitDirection_append {sign : List UInt8} {direction : Int} (h : Direction sign direction)
    {s : List UInt8} (hs : Free (fun b => b = 0x2B ∨ b = 0x2D) s) :
    splitDirection (sign ++ s) = (direction, s) := by
  cases h with
  | plus => rfl
  | minus => rfl
  | none =>
    unfold splitDirection
    rw [List.nil_append]
    split
    · exact absurd (.inl rfl) (hs _ rfl)
    · exact absurd (.inr rfl) (hs _ rfl)
    · rfl

theorem exists_of_splitDirection (s : List UInt8) :
    ∃ sign, s = sign ++ (splitDirection s).2 ∧ Direction sign (splitDirection s).1 := by
  unfold splitDirection
  split
  · exact ⟨[0x2B], rfl, .plus⟩
  · exact ⟨[0x2D], rfl, .minus⟩
  · exact ⟨[], rfl, .none⟩

theorem Digits.free {s : List UInt8} {digits : List Nat} (h : Digits s digits) (rest : List UInt8)
    {p : UInt8 → Prop} (hp : ∀ b, p b → ¬ (0x30 ≤ b.toNat ∧ b.toNat ≤ 0x39)) : Free p (s ++ rest) := by
  obtain ⟨b, s, rfl⟩ := List.exists_cons_of_ne_nil h.ne_nil
  intro c hc
  obtain rfl := Option.some.inj hc
  exact fun hb => hp b hb (h.range b List.mem_cons_self)

theorem readExponent_append {s : List UInt8} {exponent : Option Int} (h : Exponent s exponent)
    {rest : List UInt8} (hrest : Free (fun b => isDigit b = true ∨ b = 0x65 ∨ b = 0x45) rest) :
    readExponent (s ++ rest) = .ok (exponent, rest) := by
  cases h with
  | none => exact readExponent_of_ne (hrest.mono fun _ => .inr)
  | @some e sign s direction digits he hsign hs =>
    have hfree : Free (fun b => b = 0x2B ∨ b = 0x2D) (s ++ rest) :=
      hs.free rest (by rintro b (rfl | rfl) <;> decide)
    rw [List.append_assoc, List.cons_append, readExponent_eq he, splitDirection_append hsign hfree, bind_eq_ok_iff]
    exact ⟨(digits, rest), readDigits_append hs (hrest.mono fun _ => .inl), rfl⟩

theorem exists_of_readExponent {s : List UInt8} {exponent : Option Int} {rest : List UInt8}
    (h : readExponent s = .ok (exponent, rest)) : ∃ text, s = text ++ rest ∧ Exponent text exponent := by
  cases s with
  | nil =>
    cases h
    exact ⟨[], rfl, .none⟩
  | cons e s =>
    by_cases he : e = 0x65 ∨ e = 0x45
    · rw [readExponent_eq he] at h
      obtain ⟨⟨digits, after⟩, hread, h⟩ := bind_eq_ok_iff.mp h
      obtain ⟨sign, hsign, hdirection⟩ := exists_of_splitDirection s
      obtain ⟨text, htext, hdigits⟩ := exists_of_readDigits hread
      cases h
      exact ⟨e :: sign ++ text, by simpa [htext] using hsign, .some he hdirection hdigits⟩
    · rw [readExponent_of_ne] at h
      · cases h
        exact ⟨[], rfl, .none⟩
      · intro b hb
        obtain rfl := Option.some.inj hb
        exact he

/-- What may follow a number: nothing that goes on with it. -/
def Stops (rest : List UInt8) : Prop :=
  Free (fun b => isDigit b = true ∨ b = 0x2E ∨ b = 0x65 ∨ b = 0x45) rest

theorem Free.append {p : UInt8 → Prop} {s rest : List UInt8} (hs : Free p s) (hrest : Free p rest) :
    Free p (s ++ rest) := by
  cases s with
  | nil => exact hrest
  | cons b s => exact hs

theorem Fraction.free {s : List UInt8} {digits : List Nat} (h : Fraction s digits) {p : UInt8 → Prop}
    (hp : ¬ p 0x2E) : Free p s := by
  cases h with
  | none => exact fun _ hb => absurd hb (Option.not_mem_none _)
  | some => exact fun _ hb => Option.some.inj hb ▸ hp

theorem Exponent.free {s : List UInt8} {exponent : Option Int} (h : Exponent s exponent) {p : UInt8 → Prop}
    (hp : ¬ p 0x65 ∧ ¬ p 0x45) : Free p s := by
  cases h with
  | none => exact fun _ hb => absurd hb (Option.not_mem_none _)
  | some he =>
    intro b hb
    obtain rfl := Option.some.inj hb
    rcases he with rfl | rfl
    · exact hp.1
    · exact hp.2

/-- The sign in front of a number and the bytes after it. -/
def splitSign (s : List UInt8) : Bool × List UInt8 :=
  match s with
  | 0x2D :: t => (true, t)
  | _ => (false, s)

theorem readNumeral_eq (s : List UInt8) :
    readNumeral s = (do
      let (whole, afterWhole) ← readWhole (splitSign s).2
      let (fraction, afterFraction) ← readFraction afterWhole
      let (exponent, rest) ← readExponent afterFraction
      return (⟨(splitSign s).1, whole, fraction, exponent⟩, rest)) := rfl

theorem splitSign_append {sign : List UInt8} {negative : Bool} (h : Sign sign negative) {s : List UInt8}
    (hs : Free (· = 0x2D) s) : splitSign (sign ++ s) = (negative, s) := by
  cases h with
  | minus => rfl
  | none =>
    unfold splitSign
    rw [List.nil_append]
    split
    · exact absurd rfl (hs _ rfl)
    · rfl

theorem exists_of_splitSign (s : List UInt8) :
    ∃ sign, s = sign ++ (splitSign s).2 ∧ Sign sign (splitSign s).1 := by
  unfold splitSign
  split
  · exact ⟨[0x2D], rfl, .minus⟩
  · exact ⟨[], rfl, .none⟩

theorem readNumeral_append {s : List UInt8} {n : Numeral} (h : SpellsNumber s n) {rest : List UInt8}
    (hrest : Stops rest) : readNumeral (s ++ rest) = .ok (n, rest) := by
  obtain @⟨sign, w, f, e, negative, whole, fraction, exponent, hsign, hw, hf, he⟩ := h
  have hexponent : readExponent (e ++ rest) = .ok (exponent, rest) :=
    readExponent_append he (hrest.mono fun _ hb => hb.imp_right .inr)
  have hfraction : readFraction (f ++ (e ++ rest)) = .ok (fraction, e ++ rest) :=
    readFraction_append hf ((he.free (by decide)).append (hrest.mono fun _ hb => hb.imp_right .inl))
  have hwhole : readWhole (w ++ (f ++ (e ++ rest))) = .ok (whole, f ++ (e ++ rest)) :=
    readWhole_append hw ((hf.free (by decide)).append ((he.free (by decide)).append (hrest.mono fun _ => .inl)))
  have hfree : Free (· = 0x2D) (w ++ (f ++ (e ++ rest))) := hw.free _ (by rintro b rfl; decide)
  rw [readNumeral_eq, List.append_assoc, List.append_assoc, List.append_assoc, splitSign_append hsign hfree]
  simp only [hwhole, hfraction, hexponent, bind, Except.bind, pure, Except.pure]

theorem exists_of_readNumeral {s : List UInt8} {n : Numeral} {rest : List UInt8}
    (h : readNumeral s = .ok (n, rest)) : ∃ text, s = text ++ rest ∧ SpellsNumber text n := by
  rw [readNumeral_eq] at h
  obtain ⟨sign, hs, hsign⟩ := exists_of_splitSign s
  obtain ⟨⟨whole, afterWhole⟩, hreadWhole, h⟩ := bind_eq_ok_iff.mp h
  obtain ⟨⟨fraction, afterFraction⟩, hreadFraction, h⟩ := bind_eq_ok_iff.mp h
  obtain ⟨⟨exponent, after⟩, hreadExponent, h⟩ := bind_eq_ok_iff.mp h
  obtain ⟨w, hw, hwhole⟩ := exists_of_readWhole hreadWhole
  obtain ⟨f, hf, hfraction⟩ := exists_of_readFraction hreadFraction
  obtain ⟨e, he, hexponent⟩ := exists_of_readExponent hreadExponent
  cases h
  refine ⟨sign ++ (w ++ (f ++ e)), ?_, .mk hsign hwhole hfraction hexponent⟩
  rw [hs, hw, hf, he]
  simp only [List.append_assoc]

/-- A number that is kept is an integer of 64 bits or in the range of floats. -/
def Numeral.IsInRange (n : Numeral) : Prop := n.isSmallInteger = true ∨ n.inFloatRange = true

theorem readNumber_append {s : List UInt8} {n : Numeral} (h : SpellsNumber s n) (hrange : n.IsInRange)
    {rest : List UInt8} (hrest : Stops rest) : readNumber (s ++ rest) = .ok (n, rest) := by
  apply bind_eq_ok_iff.mpr
  exact ⟨(n, rest), readNumeral_append h hrest, if_pos (Bool.or_eq_true_iff.mpr hrange)⟩

theorem exists_of_readNumber {s : List UInt8} {n : Numeral} {rest : List UInt8}
    (h : readNumber s = .ok (n, rest)) :
    ∃ text, s = text ++ rest ∧ SpellsNumber text n ∧ n.IsInRange := by
  obtain ⟨⟨n', rest'⟩, hread, hrange⟩ := bind_eq_ok_iff.mp h
  dsimp only at hrange
  split_ifs at hrange with hin
  cases hrange
  obtain ⟨text, hs, htext⟩ := exists_of_readNumeral hread
  exact ⟨text, hs, htext, Bool.or_eq_true_iff.mp hin⟩

end KeyApproval.Json
