import KeyApproval.Proofs.JsonText

/-!
# Values that are passed over

A value that nobody will look at is read for its form only: an escape may have any four digits, the bytes
of a string need not be text, and a number may be of any size. The grammar of such values, and that they
are passed over whole, and nothing but them. Every value that could be kept can be passed over.
-/

namespace KeyApproval.Json

open Text.Utf8

/-! ### The grammar -/

/-- What may follow a backslash. Four digits are read as a blank, whatever they are. -/
inductive PassedEscape : List UInt8 → Char → Prop where
  | short {b : UInt8} {c : Char} : (b, c) ∈ shortEscapes → PassedEscape [b] c
  | unit {digits : List UInt8} {n : Nat} : Hex4 digits n → PassedEscape (0x75 :: digits) ' '

/-- The bytes between the quotes, of which no text is made. -/
def PassedString (raw : List UInt8) (text : String) : Prop :=
  text = "" ∧ ∃ content, Content PassedEscape raw content

inductive PassedScalar : List UInt8 → Value → Prop where
  | null : PassedScalar [0x6E, 0x75, 0x6C, 0x6C] .null
  | true : PassedScalar [0x74, 0x72, 0x75, 0x65] (.bool true)
  | false : PassedScalar [0x66, 0x61, 0x6C, 0x73, 0x65] (.bool false)
  | string {raw : List UInt8} {text : String} : PassedString raw text →
      PassedScalar (0x22 :: raw ++ [0x22]) (.string text)
  | number {s : List UInt8} {n : Numeral} : SpellsNumber s n → PassedScalar s (.number n)

/-- `PassedValue depth s v`: no more than `depth` arrays and objects are in one another. -/
def PassedValue : Nat → List UInt8 → Value → Prop
  | 0, s, v => PassedScalar s v
  | depth + 1, s, v =>
    PassedScalar s v ∨ Bracketed (PassedValue depth) (Named PassedString (Under (PassedValue depth))) s v

/-- A text with the form of a value. -/
def Passes (s : List UInt8) : Prop := ∃ depth v, PassedValue depth s v

/-! ### Reading without looking -/

theorem passEscape_unit (rest : List UInt8) :
    passEscape (0x75 :: rest) = (do
      let _ ← readHex4 rest
      return (' ', 5)) := rfl

theorem passEscape_of_ne {b : UInt8} (h : b ≠ 0x75) (rest : List UInt8) :
    passEscape (b :: rest) = readEscape (b :: rest) := by
  have hb : ¬ (b == 0x75) = true := by simpa using h
  exact (if_neg hb).trans (if_neg hb).symm

theorem passedEscape_reads : ReadsEscapes PassedEscape passEscape := by
  intro s c width
  constructor
  · intro h
    cases s with
    | nil => cases h
    | cons b rest =>
      by_cases hb : b = 0x75
      · subst hb
        rw [passEscape_unit, bind_eq_ok_iff] at h
        obtain ⟨n, hread, h⟩ := h
        cases h
        obtain ⟨digits, rest, rfl, hdigits⟩ := readHex4_eq_ok_iff.mp hread
        exact ⟨0x75 :: digits, rest, rfl, by simp [hdigits.length_eq], .unit hdigits⟩
      · rw [passEscape_of_ne hb, readEscape_of_ne hb] at h
        obtain ⟨d, hd, hfound⟩ := h
        cases hfound
        exact ⟨[b], rest, rfl, rfl, .short (simpleEscape?_eq_some_iff.mp hd)⟩
  · rintro ⟨e, rest, rfl, rfl, he⟩
    cases he with
    | @short b c hb =>
      have hne : ∀ entry ∈ shortEscapes, entry.1 ≠ 0x75 := by decide
      rw [List.singleton_append, passEscape_of_ne (hne _ hb), readEscape_of_ne (hne _ hb)]
      exact ⟨c, simpleEscape?_eq_some_iff.mpr hb, rfl⟩
    | @unit digits n hdigits =>
      rw [List.cons_append, passEscape_unit, bind_eq_ok_iff]
      refine ⟨n, readHex4_eq_ok_iff.mpr ⟨digits, rest, rfl, hdigits⟩, ?_⟩
      rw [List.length_cons, hdigits.length_eq]
      rfl

theorem passString_eq_ok_iff {s : List UInt8} {text : String} {rest : List UInt8} :
    passString s = .ok (text, rest) ↔ ∃ raw, s = raw ++ 0x22 :: rest ∧ PassedString raw text := by
  constructor
  · intro h
    obtain ⟨⟨content, after⟩, hread, h⟩ := bind_eq_ok_iff.mp h
    cases h
    obtain ⟨raw, hraw, hcontent⟩ := exists_content_of_readContent passedEscape_reads hread
    exact ⟨raw, hraw, rfl, content, hcontent⟩
  · rintro ⟨raw, rfl, rfl, content, hcontent⟩
    exact bind_eq_ok_iff.mpr ⟨_, readContent_of_content passedEscape_reads hcontent rest, rfl⟩

theorem passNumber_eq_ok_iff {s : List UInt8} {found : Found Numeral} :
    passNumber s = .ok found ↔ readNumeral s = .ok found := by
  unfold passNumber
  cases readNumeral s <;> simp

theorem PassedScalar.exists_cons {s : List UInt8} {v : Value} (h : PassedScalar s v) :
    ∃ b t, s = b :: t ∧ StartsScalar b := by
  cases h with
  | null => exact ⟨_, _, rfl, .inl rfl⟩
  | true => exact ⟨_, _, rfl, .inr (.inl rfl)⟩
  | false => exact ⟨_, _, rfl, .inr (.inr (.inl rfl))⟩
  | string => exact ⟨_, _, rfl, .inr (.inr (.inr (.inl rfl)))⟩
  | number h =>
    obtain ⟨b, t, hs, hb⟩ := h.exists_cons
    exact ⟨b, t, hs, .inr (.inr (.inr (.inr hb)))⟩

theorem passedScalar_reads : ReadsScalars PassedScalar .skipping where
  starts := PassedScalar.exists_cons
  append {s v rest} h hrest := by
    cases h with
    | null => rfl
    | true => rfl
    | false => rfl
    | @string raw text hraw =>
      have hread : passString (raw ++ 0x22 :: rest) = .ok (text, rest) :=
        passString_eq_ok_iff.mpr ⟨raw, rfl, hraw⟩
      rw [List.append_assoc, List.cons_append]
      exact readScalar_eq_ok_iff.mpr (.inr (.inr (.inr (.inl ⟨_, text, rfl, hread, rfl⟩))))
    | @number _ n hs =>
      have hread : passNumber (s ++ rest) = .ok (n, rest) :=
        passNumber_eq_ok_iff.mpr (readNumeral_append hs hrest)
      obtain ⟨b, t, rfl, hb⟩ := hs.exists_cons
      exact readScalar_eq_ok_iff.mpr (.inr (.inr (.inr (.inr ⟨b, t ++ rest, n, rfl, hb, hread, rfl⟩))))
  sound {s v rest} h := by
    rcases readScalar_eq_ok_iff.mp h with ⟨hs, rfl⟩ | ⟨hs, rfl⟩ | ⟨hs, rfl⟩ | ⟨t, text, rfl, hread, rfl⟩ |
      ⟨b, t, n, -, -, hread, rfl⟩
    · exact ⟨_, hs, .null⟩
    · exact ⟨_, hs, .true⟩
    · exact ⟨_, hs, .false⟩
    · obtain ⟨raw, rfl, hraw⟩ := passString_eq_ok_iff.mp hread
      exact ⟨0x22 :: raw ++ [0x22], by simp, .string hraw⟩
    · obtain ⟨text, hs, htext⟩ := exists_of_readNumeral (passNumber_eq_ok_iff.mp hread)
      exact ⟨text, hs, .number htext⟩

theorem passedValue_reads (depth : Nat) : Reads (PassedValue depth) (readValue .skipping depth) := by
  induction depth with
  | zero => exact reads_flat passedScalar_reads
  | succ depth ih =>
    have hstring (s : List UInt8) (name : String) (rest : List UInt8) :
        Lexer.skipping.string s = .ok (name, rest) ↔ ∃ raw, s = raw ++ 0x22 :: rest ∧ PassedString raw name :=
      passString_eq_ok_iff
    have hmember := named_under_reads hstring ih fun before s hbefore =>
      readValue_skipSpace .skipping depth hbefore s
    exact reads_bracketed passedScalar_reads ih hmember

/-! ### Nesting

A bracket takes a byte, so the length of a text is room enough for its nesting. -/

section Nesting

variable {α : Type} {item item' : List UInt8 → α → Prop}

theorem Items.imp {s : List UInt8} {found : List α} (h : Items item s found)
    (himp : ∀ t a, t.length ≤ s.length → item t a → item' t a) : Items item' s found := by
  induction h with
  | last hbefore hs hafter =>
    refine .last hbefore (himp _ _ ?_ hs) hafter
    simp only [List.length_append]
    omega
  | more hbefore hs hafter _ ih =>
    simp only [List.length_append, List.length_cons] at himp
    refine .more hbefore (himp _ _ (by omega) hs) hafter (ih fun t a ht => himp t a (by omega))

theorem Sequence.imp {s : List UInt8} {found : List α} (h : Sequence item s found)
    (himp : ∀ t a, t.length ≤ s.length → item t a → item' t a) : Sequence item' s found := by
  cases h with
  | none hblank => exact .none hblank
  | some h => exact .some (h.imp himp)

end Nesting

theorem PassedScalar.passed {s : List UInt8} {v : Value} (h : PassedScalar s v) :
    (depth : Nat) → PassedValue depth s v
  | 0 => h
  | _ + 1 => .inl h

theorem PassedValue.of_length_le {depth room : Nat} {s : List UInt8} {v : Value} (h : PassedValue depth s v)
    (hroom : s.length ≤ room) : PassedValue room s v := by
  induction room generalizing depth s v with
  | zero =>
    obtain ⟨b, t, rfl, -⟩ := (passedValue_reads depth).starts h
    cases hroom
  | succ room ih =>
    cases depth with
    | zero => exact PassedScalar.passed h (room + 1)
    | succ depth =>
      rcases h with h | h
      · exact .inl h
      · refine .inr ?_
        cases h with
        | array h =>
          simp only [List.length_cons, List.length_append] at hroom
          exact .array (h.imp fun t v ht hv => ih hv (by omega))
        | object h =>
          simp only [List.length_cons, List.length_append] at hroom
          refine .object (h.imp fun t m ht hm => ?_)
          obtain ⟨hraw, hbefore, hafter, v, hv, rfl⟩ := hm
          simp only [List.length_cons, List.length_append] at ht
          exact .mk hraw hbefore hafter ⟨v, ih hv (by omega), rfl⟩

theorem skipValue_append {before s : List UInt8} (hbefore : Blank before) (h : Passes s) {rest : List UInt8}
    (hrest : Stops rest) : skipValue (before ++ (s ++ rest)) = .ok rest := by
  obtain ⟨depth, v, h⟩ := h
  have hroom : PassedValue (before ++ (s ++ rest)).length s v :=
    h.of_length_le (by simp only [List.length_append]; omega)
  have hread := (passedValue_reads _).append hroom hrest
  exact bind_eq_ok_iff.mpr ⟨(v, rest), (readValue_skipSpace .skipping _ hbefore _).trans hread, rfl⟩

theorem exists_of_skipValue {s rest : List UInt8} (h : skipValue s = .ok rest) :
    ∃ before text, s = before ++ (text ++ rest) ∧ Blank before ∧ Passes text := by
  obtain ⟨⟨v, after⟩, hread, h⟩ := bind_eq_ok_iff.mp h
  cases h
  obtain ⟨before, text, hs, hbefore, htext⟩ := (passedValue_reads _).sound hread
  exact ⟨before, text, hs, hbefore, _, v, htext⟩

/-! ### What can be kept can be passed over -/

theorem Content.escaped_append {e s content : List UInt8} {c : Char} (he : Escaped e c)
    (hs : Content PassedEscape s content) : ∃ content', Content PassedEscape (0x5C :: e ++ s) content' := by
  cases he with
  | short hb => exact ⟨_, .escaped (.short hb) hs⟩
  | unit hdigits => exact ⟨_, .escaped (.unit hdigits) hs⟩
  | @pair high low _ _ hhigh _ hlow _ =>
    have hsplit : 0x5C :: (0x75 :: high ++ 0x5C :: 0x75 :: low) ++ s =
        0x5C :: (0x75 :: high) ++ (0x5C :: (0x75 :: low) ++ s) := by simp
    rw [hsplit]
    exact ⟨_, .escaped (.unit hhigh) (.escaped (.unit hlow) hs)⟩

theorem Spells.exists_content {raw : List UInt8} {text : List Char} (h : Spells raw text) :
    ∃ content, Content PassedEscape raw content := by
  induction h with
  | nil => exact ⟨[], .nil⟩
  | plain hlow hquote hslash _ ih =>
    obtain ⟨content, hcontent⟩ := ih
    exact ⟨_, hcontent.append fun b hb => (isPlain_iff hb).mp ⟨hlow, hquote, hslash⟩⟩
  | escaped he _ ih =>
    obtain ⟨content, hcontent⟩ := ih
    exact hcontent.escaped_append he

theorem Spells.passed {raw : List UInt8} {text : List Char} (h : Spells raw text) : PassedString raw "" :=
  ⟨rfl, h.exists_content⟩

theorem Scalar.exists_passed {s : List UInt8} {v : Value} (h : Scalar s v) : ∃ w, PassedScalar s w := by
  cases h with
  | null => exact ⟨_, .null⟩
  | true => exact ⟨_, .true⟩
  | false => exact ⟨_, .false⟩
  | string hraw => exact ⟨_, .string hraw.passed⟩
  | number hs => exact ⟨_, .number hs⟩

section Passing

variable {α β : Type} {item : List UInt8 → α → Prop} {item' : List UInt8 → β → Prop}

theorem Items.exists_passed (himp : ∀ s a, item s a → ∃ b, item' s b) {s : List UInt8} {found : List α}
    (h : Items item s found) : ∃ found', Items item' s found' := by
  induction h with
  | last hbefore hs hafter =>
    obtain ⟨b, hb⟩ := himp _ _ hs
    exact ⟨[b], .last hbefore hb hafter⟩
  | more hbefore hs hafter _ ih =>
    obtain ⟨b, hb⟩ := himp _ _ hs
    obtain ⟨others, hothers⟩ := ih
    exact ⟨b :: others, .more hbefore hb hafter hothers⟩

theorem Sequence.exists_passed (himp : ∀ s a, item s a → ∃ b, item' s b) {s : List UInt8} {found : List α}
    (h : Sequence item s found) : ∃ found', Sequence item' s found' := by
  cases h with
  | none hblank => exact ⟨[], .none hblank⟩
  | some h =>
    obtain ⟨found', h'⟩ := h.exists_passed himp
    exact ⟨found', .some h'⟩

end Passing

/-- Every value of JSON is passed over, however deep it is nested. -/
theorem Denotes.passes {depth : Nat} {s : List UInt8} {v : Value} (h : Denotes depth s v) : Passes s := by
  suffices hpassed : ∃ w, PassedValue depth s w from ⟨depth, hpassed⟩
  induction depth generalizing s v with
  | zero => exact Scalar.exists_passed h
  | succ depth ih =>
    have hvalue : ∀ t w, Denotes depth t w → ∃ w', PassedValue depth t w' := fun _ _ => ih
    have hmember : ∀ t m, Member (Denotes depth) t m →
        ∃ m', Named PassedString (Under (PassedValue depth)) t m' := by
      rintro t m ⟨hraw, hbefore, hafter, hv⟩
      obtain ⟨w, hw⟩ := ih hv
      exact ⟨("", w), .mk hraw.passed hbefore hafter ⟨w, hw, rfl⟩⟩
    rcases h with h | h
    · obtain ⟨w, hw⟩ := h.exists_passed
      exact ⟨w, .inl hw⟩
    · cases h with
      | array h =>
        obtain ⟨items, hitems⟩ := h.exists_passed hvalue
        exact ⟨_, .inr (.array hitems)⟩
      | object h =>
        obtain ⟨members, hmembers⟩ := h.exists_passed hmember
        exact ⟨_, .inr (.object hmembers)⟩

end KeyApproval.Json
