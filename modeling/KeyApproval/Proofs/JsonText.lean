import KeyApproval.Proofs.JsonNumbers

/-!
# JSON texts

The grammar of JSON over bytes, as a relation between a text and the value that it denotes, bounded in its
depth; and the reader, which reads a text exactly when it denotes a value, and as that value.
-/

namespace KeyApproval.Json

/-! ### The grammar -/

/-- Spaces, line feeds, carriage returns and tabs. -/
def Blank (s : List UInt8) : Prop := ∀ b ∈ s, b = 0x20 ∨ b = 0x0A ∨ b = 0x0D ∨ b = 0x09

/-- One item or more, each between blanks, with commas between them. -/
inductive Items {α : Type} (item : List UInt8 → α → Prop) : List UInt8 → List α → Prop where
  | last {before s after : List UInt8} {a : α} : Blank before → item s a → Blank after →
      Items item (before ++ (s ++ after)) [a]
  | more {before s after rest : List UInt8} {a : α} {others : List α} : Blank before → item s a →
      Blank after → Items item rest others →
      Items item (before ++ (s ++ (after ++ 0x2C :: rest))) (a :: others)

/-- What stands between brackets. -/
inductive Sequence {α : Type} (item : List UInt8 → α → Prop) : List UInt8 → List α → Prop where
  | none {s : List UInt8} : Blank s → Sequence item s []
  | some {s : List UInt8} {found : List α} : Items item s found → Sequence item s found

/-- A name in quotes, a colon between blanks, and a value. -/
inductive Member (value : List UInt8 → Value → Prop) : List UInt8 → String × Value → Prop where
  | mk {raw before after s : List UInt8} {name : String} {v : Value} : Spells raw name.toList →
      Blank before → Blank after → value s v →
      Member value (0x22 :: raw ++ 0x22 :: (before ++ 0x3A :: (after ++ s))) (name, v)

inductive Scalar : List UInt8 → Value → Prop where
  | null : Scalar [0x6E, 0x75, 0x6C, 0x6C] .null
  | true : Scalar [0x74, 0x72, 0x75, 0x65] (.bool true)
  | false : Scalar [0x66, 0x61, 0x6C, 0x73, 0x65] (.bool false)
  | string {raw : List UInt8} {text : String} : Spells raw text.toList →
      Scalar (0x22 :: raw ++ [0x22]) (.string text)
  | number {s : List UInt8} {n : Numeral} : SpellsNumber s n → n.IsInRange → Scalar s (.number n)

/-- An array or an object whose items are values of that kind. -/
inductive Container (value : List UInt8 → Value → Prop) : List UInt8 → Value → Prop where
  | array {s : List UInt8} {items : List Value} : Sequence value s items →
      Container value (0x5B :: s ++ [0x5D]) (.array items)
  | object {s : List UInt8} {members : List (String × Value)} : Sequence (Member value) s members →
      Container value (0x7B :: s ++ [0x7D]) (.object members)

/-- `Denotes depth s v`: the text is a value with no more than `depth` arrays and objects in one another. -/
def Denotes : Nat → List UInt8 → Value → Prop
  | 0, s, v => Scalar s v
  | depth + 1, s, v => Scalar s v ∨ Container (Denotes depth) s v

/-- A whole text: a value between blanks. -/
def IsText (s : List UInt8) (v : Value) : Prop :=
  ∃ before inner after, s = before ++ (inner ++ after) ∧ Blank before ∧ Blank after ∧ Denotes 127 inner v

/-! ### Blanks -/

theorem isSpace_iff {b : UInt8} : isSpace b = true ↔ b = 0x20 ∨ b = 0x0A ∨ b = 0x0D ∨ b = 0x09 := by
  simp only [isSpace, Bool.or_eq_true, beq_iff_eq, or_assoc]

theorem blank_nil : Blank [] := fun _ h => absurd h List.not_mem_nil

theorem Blank.append {s t : List UInt8} (hs : Blank s) (ht : Blank t) : Blank (s ++ t) :=
  fun b hb => (List.mem_append.mp hb).elim (hs b) (ht b)

theorem skipSpace_append {before : List UInt8} (h : Blank before) (s : List UInt8) :
    skipSpace (before ++ s) = skipSpace s :=
  List.dropWhile_append_of_pos fun b hb => isSpace_iff.mpr (h b hb)

theorem skipSpace_cons {b : UInt8} (h : isSpace b = false) (s : List UInt8) : skipSpace (b :: s) = b :: s :=
  List.dropWhile_cons_of_neg (Bool.eq_false_iff.mp h)

theorem exists_blank (s : List UInt8) : ∃ before, s = before ++ skipSpace s ∧ Blank before :=
  ⟨s.takeWhile isSpace, List.takeWhile_append_dropWhile.symm, fun _ hb =>
    isSpace_iff.mp (List.mem_takeWhile_imp hb)⟩

theorem Blank.free {s : List UInt8} (h : Blank s) {p : UInt8 → Prop}
    (hp : ¬ p 0x20 ∧ ¬ p 0x0A ∧ ¬ p 0x0D ∧ ¬ p 0x09) : Free p s := by
  intro b hb
  rcases h b (List.mem_of_mem_head? hb) with rfl | rfl | rfl | rfl
  · exact hp.1
  · exact hp.2.1
  · exact hp.2.2.1
  · exact hp.2.2.2

/-- Blanks and whatever ends a value end a number. -/
theorem stops_append {after : List UInt8} (h : Blank after) {rest : List UInt8} (hrest : Stops rest) :
    Stops (after ++ rest) :=
  (h.free (by decide)).append hrest

/-! ### Scalars -/

theorem readWord_eq_ok_iff {word s rest : List UInt8} : readWord word s = .ok rest ↔ s = word ++ rest := by
  induction word generalizing s with
  | nil => simp [readWord]
  | cons w word ih =>
    cases s with
    | nil => simp [readWord]
    | cons b s =>
      rw [readWord]
      by_cases hb : w = b
      · simp [hb, ih]
      · simp [hb, Ne.symm hb]

theorem SpellsNumber.exists_cons {s : List UInt8} {n : Numeral} (h : SpellsNumber s n) :
    ∃ b t, s = b :: t ∧ (b = 0x2D ∨ isDigit b = true) := by
  obtain ⟨hsign, hw, -, -⟩ := h
  cases hsign with
  | minus => exact ⟨0x2D, _, rfl, .inl rfl⟩
  | none =>
    obtain ⟨b, t, rfl⟩ := List.exists_cons_of_ne_nil hw.ne_nil
    exact ⟨b, _, rfl, .inr (isDigit_iff.mpr (hw.range b List.mem_cons_self))⟩

/-- The first byte of a scalar. -/
def StartsScalar (b : UInt8) : Prop :=
  b = 0x6E ∨ b = 0x74 ∨ b = 0x66 ∨ b = 0x22 ∨ b = 0x2D ∨ isDigit b = true

theorem Scalar.exists_cons {s : List UInt8} {v : Value} (h : Scalar s v) :
    ∃ b t, s = b :: t ∧ StartsScalar b := by
  cases h with
  | null => exact ⟨_, _, rfl, .inl rfl⟩
  | true => exact ⟨_, _, rfl, .inr (.inl rfl)⟩
  | false => exact ⟨_, _, rfl, .inr (.inr (.inl rfl))⟩
  | string => exact ⟨_, _, rfl, .inr (.inr (.inr (.inl rfl)))⟩
  | number h =>
    obtain ⟨b, t, hs, hb⟩ := h.exists_cons
    exact ⟨b, t, hs, .inr (.inr (.inr (.inr hb)))⟩

/-- A scalar is one of three words, or what the lexer reads as a string or a number. -/
theorem readScalar_eq_ok_iff {lexer : Lexer} {s : List UInt8} {v : Value} {rest : List UInt8} :
    readScalar lexer s = .ok (v, rest) ↔
      (s = [0x6E, 0x75, 0x6C, 0x6C] ++ rest ∧ v = .null) ∨
      (s = [0x74, 0x72, 0x75, 0x65] ++ rest ∧ v = .bool true) ∨
      (s = [0x66, 0x61, 0x6C, 0x73, 0x65] ++ rest ∧ v = .bool false) ∨
      (∃ t text, s = 0x22 :: t ∧ lexer.string t = .ok (text, rest) ∧ v = .string text) ∨
      ∃ b t n, s = b :: t ∧ (b = 0x2D ∨ isDigit b = true) ∧ lexer.number s = .ok (n, rest) ∧
        v = .number n := by
  constructor
  · intro h
    cases s with
    | nil => cases h
    | cons b s =>
      unfold readScalar at h
      dsimp only at h
      split_ifs at h with hnull htrue hfalse hquote hnumber
      · obtain rfl := eq_of_beq hnull
        obtain ⟨after, hword, h⟩ := bind_eq_ok_iff.mp h
        cases h
        exact .inl ⟨congrArg _ (readWord_eq_ok_iff.mp hword), rfl⟩
      · obtain rfl := eq_of_beq htrue
        obtain ⟨after, hword, h⟩ := bind_eq_ok_iff.mp h
        cases h
        exact .inr (.inl ⟨congrArg _ (readWord_eq_ok_iff.mp hword), rfl⟩)
      · obtain rfl := eq_of_beq hfalse
        obtain ⟨after, hword, h⟩ := bind_eq_ok_iff.mp h
        cases h
        exact .inr (.inr (.inl ⟨congrArg _ (readWord_eq_ok_iff.mp hword), rfl⟩))
      · obtain rfl := eq_of_beq hquote
        obtain ⟨⟨text, after⟩, hstring, h⟩ := bind_eq_ok_iff.mp h
        cases h
        exact .inr (.inr (.inr (.inl ⟨s, text, rfl, hstring, rfl⟩)))
      · obtain ⟨⟨n, after⟩, hread, h⟩ := bind_eq_ok_iff.mp h
        cases h
        rw [Bool.or_eq_true, beq_iff_eq] at hnumber
        exact .inr (.inr (.inr (.inr ⟨b, s, n, rfl, hnumber, hread, rfl⟩)))
  · rintro (⟨rfl, rfl⟩ | ⟨rfl, rfl⟩ | ⟨rfl, rfl⟩ | ⟨t, text, rfl, hread, rfl⟩ | ⟨b, t, n, rfl, hb, hread, rfl⟩)
    · rfl
    · rfl
    · rfl
    · exact bind_eq_ok_iff.mpr ⟨(text, rest), hread, rfl⟩
    · -- A minus sign or a digit is the first byte of nothing else.
      have hne {x : UInt8} (hx : x ≠ 0x2D ∧ isDigit x = false) : ¬ (b == x) = true := by
        intro hb'
        obtain rfl := eq_of_beq hb'
        exact hb.elim hx.1 (fun h => absurd (h.symm.trans hx.2) (by decide))
      have hnumber : (b == 0x2D || isDigit b) = true := by rwa [Bool.or_eq_true, beq_iff_eq]
      unfold readScalar
      dsimp only
      rw [if_neg (hne (by decide)), if_neg (hne (by decide)), if_neg (hne (by decide)),
        if_neg (hne (by decide)), if_pos hnumber, hread]
      rfl

/-- A lexer whose scalars are those of that kind. -/
structure ReadsScalars (scalar : List UInt8 → Value → Prop) (lexer : Lexer) : Prop where
  starts {s : List UInt8} {v : Value} : scalar s v → ∃ b t, s = b :: t ∧ StartsScalar b
  append {s : List UInt8} {v : Value} {rest : List UInt8} : scalar s v → Stops rest →
    readScalar lexer (s ++ rest) = .ok (v, rest)
  sound {s : List UInt8} {v : Value} {rest : List UInt8} : readScalar lexer s = .ok (v, rest) →
    ∃ text, s = text ++ rest ∧ scalar text v

theorem readScalar_append {s : List UInt8} {v : Value} (h : Scalar s v) {rest : List UInt8}
    (hrest : Stops rest) : readScalar .checking (s ++ rest) = .ok (v, rest) := by
  cases h with
  | null => rfl
  | true => rfl
  | false => rfl
  | @string raw text hraw =>
    have hread : readString (raw ++ 0x22 :: rest) = .ok (text, rest) :=
      readString_eq_ok_iff.mpr ⟨raw, rfl, hraw⟩
    rw [List.append_assoc, List.cons_append]
    exact readScalar_eq_ok_iff.mpr (.inr (.inr (.inr (.inl ⟨_, text, rfl, hread, rfl⟩))))
  | @number _ n hs hrange =>
    have hread : readNumber (s ++ rest) = .ok (n, rest) := readNumber_append hs hrange hrest
    obtain ⟨b, t, rfl, hb⟩ := hs.exists_cons
    exact readScalar_eq_ok_iff.mpr (.inr (.inr (.inr (.inr ⟨b, t ++ rest, n, rfl, hb, hread, rfl⟩))))

theorem exists_of_readScalar {s : List UInt8} {v : Value} {rest : List UInt8}
    (h : readScalar .checking s = .ok (v, rest)) : ∃ text, s = text ++ rest ∧ Scalar text v := by
  rcases readScalar_eq_ok_iff.mp h with ⟨hs, rfl⟩ | ⟨hs, rfl⟩ | ⟨hs, rfl⟩ | ⟨t, text, rfl, hread, rfl⟩ |
    ⟨b, t, n, -, -, hread, rfl⟩
  · exact ⟨_, hs, .null⟩
  · exact ⟨_, hs, .true⟩
  · exact ⟨_, hs, .false⟩
  · obtain ⟨raw, rfl, hraw⟩ := readString_eq_ok_iff.mp hread
    exact ⟨0x22 :: raw ++ [0x22], by simp, .string hraw⟩
  · obtain ⟨text, hs, htext, hrange⟩ := exists_of_readNumber hread
    exact ⟨text, hs, .number htext hrange⟩

theorem scalar_reads : ReadsScalars Scalar .checking :=
  ⟨Scalar.exists_cons, fun h hrest => readScalar_append h hrest, exists_of_readScalar⟩

/-! ### Sequences -/

/-- A reader of items: it reads what the grammar knows and nothing else, as far as it goes. -/
structure Reads {α : Type} (item : List UInt8 → α → Prop) (reader : List UInt8 → Except Error (Found α)) :
    Prop where
  starts {s : List UInt8} {a : α} : item s a → ∃ b t, s = b :: t ∧ isSpace b = false ∧ b ≠ 0x5D ∧ b ≠ 0x7D
  append {s : List UInt8} {a : α} {rest : List UInt8} : item s a → Stops rest →
    reader (s ++ rest) = .ok (a, rest)
  sound {s : List UInt8} {a : α} {rest : List UInt8} : reader s = .ok (a, rest) →
    ∃ before text, s = before ++ (text ++ rest) ∧ Blank before ∧ item text a

theorem Reads.congr {α : Type} {item item' : List UInt8 → α → Prop}
    {reader : List UInt8 → Except Error (Found α)} (hreads : Reads item reader)
    (h : ∀ s a, item' s a ↔ item s a) : Reads item' reader := by
  have heq : item' = item := funext₂ fun s a => propext (h s a)
  rwa [heq]

/-- A byte that closes a sequence. -/
def Closes (b : UInt8) : Prop := b = 0x5D ∨ b = 0x7D

theorem Closes.stops {close : UInt8} (h : Closes close) (rest : List UInt8) : Stops (close :: rest) := by
  intro b hb
  obtain rfl := Option.some.inj hb
  rcases h with rfl | rfl <;> decide

theorem stops_comma (rest : List UInt8) : Stops (0x2C :: rest) := by
  intro b hb
  obtain rfl := Option.some.inj hb
  decide

theorem Closes.isSpace_eq_false {close : UInt8} (h : Closes close) : isSpace close = false := by
  rcases h with rfl | rfl <;> decide

theorem Closes.comma_ne {close : UInt8} (h : Closes close) : ¬ (0x2C == close) = true := by
  rcases h with rfl | rfl <;> decide

section Sequences

variable {α : Type} {item : List UInt8 → α → Prop} {reader : List UInt8 → Except Error (Found α)}
  {close : UInt8}

theorem Reads.skipSpace_append (hreads : Reads item reader) {before s : List UInt8} {a : α} (hblank : Blank before)
    (hs : item s a) (rest : List UInt8) : skipSpace (before ++ (s ++ rest)) = s ++ rest := by
  obtain ⟨b, t, rfl, hb, -⟩ := hreads.starts hs
  rw [Json.skipSpace_append hblank, List.cons_append, skipSpace_cons hb]

theorem Items.length_le {s : List UInt8} {found : List α} (h : Items item s found) :
    found.length ≤ s.length + 1 := by
  induction h with
  | last => simp
  | more _ _ _ _ ih =>
    simp only [List.length_cons, List.length_append]
    omega

omit item in
theorem readItems_of_read {s after rest : List UInt8} {b : UInt8} {first : α}
    (hread : reader s = .ok (first, after)) (hskip : skipSpace after = b :: rest) (count : Nat) :
    readItems reader close (count + 1) s =
      if b == close then .ok ([first], rest)
      else if b == 0x2C then do
        let (others, rest) ← readItems reader close count (skipSpace rest)
        return (first :: others, rest)
      else .error .malformed := by
  rw [readItems, hread]
  simp only [bind, Except.bind]
  rw [hskip]
  rfl

theorem readItems_append (hreads : Reads item reader) (hclose : Closes close) {s : List UInt8} {found : List α}
    (h : Items item s found) {count : Nat} (hcount : found.length ≤ count) (rest : List UInt8) :
    readItems reader close count (skipSpace (s ++ close :: rest)) = .ok (found, rest) := by
  induction h generalizing count with
  | @last before s after a hbefore hs hafter =>
    obtain ⟨count, rfl⟩ := Nat.exists_eq_add_of_le' hcount
    have hread : reader (s ++ (after ++ close :: rest)) = .ok (a, after ++ close :: rest) :=
      hreads.append hs (stops_append hafter (hclose.stops rest))
    have hskip : skipSpace (after ++ close :: rest) = close :: rest := by
      rw [skipSpace_append hafter, skipSpace_cons hclose.isSpace_eq_false]
    rw [List.append_assoc, List.append_assoc, hreads.skipSpace_append hbefore hs]
    exact (readItems_of_read hread hskip count).trans (if_pos (beq_self_eq_true close))
  | @more before s after inner a others hbefore hs hafter _ ih =>
    obtain ⟨count, rfl⟩ := Nat.exists_eq_add_of_le' (Nat.le_trans (Nat.le_add_left 1 _) hcount)
    have hcomma : Stops (0x2C :: (inner ++ close :: rest)) := stops_comma _
    have hread : reader (s ++ (after ++ 0x2C :: (inner ++ close :: rest))) =
        .ok (a, after ++ 0x2C :: (inner ++ close :: rest)) :=
      hreads.append hs (stops_append hafter hcomma)
    have hskip : skipSpace (after ++ 0x2C :: (inner ++ close :: rest)) = 0x2C :: (inner ++ close :: rest) := by
      rw [skipSpace_append hafter, skipSpace_cons (by decide)]
    have hothers := ih (Nat.le_of_succ_le_succ hcount)
    rw [List.append_assoc, List.append_assoc, List.append_assoc, List.cons_append, hreads.skipSpace_append hbefore hs,
      readItems_of_read hread hskip, if_neg hclose.comma_ne, hothers]
    rfl

theorem Items.blank_append {before s : List UInt8} {found : List α} (hblank : Blank before)
    (h : Items item s found) : Items item (before ++ s) found := by
  cases h with
  | last hbefore hs hafter =>
    rw [← List.append_assoc]
    exact .last (hblank.append hbefore) hs hafter
  | more hbefore hs hafter hrest =>
    rw [← List.append_assoc]
    exact .more (hblank.append hbefore) hs hafter hrest

theorem exists_of_readItems (hreads : Reads item reader) {count : Nat} {s : List UInt8} {found : List α}
    {rest : List UInt8} (h : readItems reader close count s = .ok (found, rest)) :
    ∃ inner, s = inner ++ close :: rest ∧ Items item inner found := by
  induction count generalizing s found with
  | zero => cases h
  | succ count ih =>
    cases hread : reader s with
    | error e => rw [readItems, hread] at h; cases h
    | ok result =>
      obtain ⟨first, after⟩ := result
      obtain ⟨before, text, rfl, hbefore, htext⟩ := hreads.sound hread
      obtain ⟨blank, hafter, hblank⟩ := exists_blank after
      cases hskip : skipSpace after with
      | nil =>
        rw [readItems, hread] at h
        simp only [bind, Except.bind] at h
        rw [hskip] at h
        cases h
      | cons b tail =>
        rw [readItems_of_read hread hskip] at h
        rw [hskip] at hafter
        split_ifs at h with hclose hcomma
        · cases h
          obtain rfl := eq_of_beq hclose
          exact ⟨before ++ (text ++ blank), by simp [hafter], .last hbefore htext hblank⟩
        · obtain rfl := eq_of_beq hcomma
          obtain ⟨⟨others, rest'⟩, hothers, hresult⟩ := bind_eq_ok_iff.mp h
          cases hresult
          obtain ⟨inner, hinner, hitems⟩ := ih hothers
          obtain ⟨blank', htail, hblank'⟩ := exists_blank tail
          rw [hinner] at htail
          refine ⟨before ++ (text ++ (blank ++ 0x2C :: (blank' ++ inner))), by simp [hafter, htail], ?_⟩
          exact .more hbefore htext hblank (hitems.blank_append hblank')

/-- Without the blanks in front, items begin as the first of them does. -/
theorem Items.exists_trimmed (hreads : Reads item reader) {s : List UInt8} {found : List α}
    (h : Items item s found) :
    ∃ before b t, s = before ++ b :: t ∧ Blank before ∧ isSpace b = false ∧ b ≠ 0x5D ∧ b ≠ 0x7D ∧
      Items item (b :: t) found := by
  cases h with
  | last hbefore hs hafter =>
    obtain ⟨b, t, rfl, hb⟩ := hreads.starts hs
    exact ⟨_, b, _, rfl, hbefore, hb.1, hb.2.1, hb.2.2, .last blank_nil hs hafter⟩
  | more hbefore hs hafter hrest =>
    obtain ⟨b, t, rfl, hb⟩ := hreads.starts hs
    exact ⟨_, b, _, rfl, hbefore, hb.1, hb.2.1, hb.2.2,
      .more blank_nil hs hafter hrest⟩

theorem readSequence_append (hreads : Reads item reader) (hclose : Closes close) {s : List UInt8}
    {found : List α} (h : Sequence item s found) (rest : List UInt8) :
    readSequence reader close (s ++ close :: rest) = .ok (found, rest) := by
  cases h with
  | none hblank =>
    unfold readSequence
    rw [skipSpace_append hblank, skipSpace_cons hclose.isSpace_eq_false]
    exact if_pos (beq_self_eq_true close)
  | some h =>
    obtain ⟨before, b, t, rfl, hbefore, hspace, hb, hb', hitems⟩ := h.exists_trimmed hreads
    have hskip : skipSpace (b :: (t ++ close :: rest)) = b :: (t ++ close :: rest) := skipSpace_cons hspace _
    have hne : ¬ (b == close) = true := by
      rw [beq_iff_eq]
      rintro rfl
      exact hclose.elim hb hb'
    have hcount : found.length ≤ (t ++ close :: rest).length + 1 := by
      have := hitems.length_le
      simp only [List.length_cons, List.length_append] at this ⊢
      omega
    unfold readSequence
    rw [List.append_assoc, List.cons_append, skipSpace_append hbefore, hskip]
    refine (if_neg hne).trans ?_
    rw [← hskip]
    exact readItems_append hreads hclose hitems hcount rest

theorem exists_of_readSequence (hreads : Reads item reader) {s : List UInt8}
    {found : List α} {rest : List UInt8} (h : readSequence reader close s = .ok (found, rest)) :
    ∃ inner, s = inner ++ close :: rest ∧ Sequence item inner found := by
  obtain ⟨blank, hs, hblank⟩ := exists_blank s
  unfold readSequence at h
  split at h
  · cases h
  · next b tail hskip =>
    rw [hskip] at hs
    split_ifs at h with hend
    · cases h
      obtain rfl := eq_of_beq hend
      exact ⟨blank, hs, .none hblank⟩
    · obtain ⟨inner, hinner, hitems⟩ := exists_of_readItems hreads h
      exact ⟨blank ++ inner, by rw [hs, hinner, List.append_assoc], .some (hitems.blank_append hblank)⟩

end Sequences

/-! ### Members and values -/

theorem readColon_eq_ok_iff {s rest : List UInt8} :
    readColon s = .ok rest ↔ ∃ before, s = before ++ 0x3A :: rest ∧ Blank before := by
  constructor
  · intro h
    obtain ⟨before, hs, hbefore⟩ := exists_blank s
    unfold readColon at h
    split at h
    · cases h
    · next b tail hskip =>
      rw [hskip] at hs
      split_ifs at h with hcolon
      cases h
      obtain rfl := eq_of_beq hcolon
      exact ⟨before, hs, hbefore⟩
  · rintro ⟨before, rfl, hbefore⟩
    unfold readColon
    rw [skipSpace_append hbefore, skipSpace_cons (by decide)]
    rfl

/-- A name in quotes, which is spelled in that way, a colon between blanks, and a value as the name asks
for it. -/
inductive Named {α : Type} (spelled : List UInt8 → String → Prop) (value : String → List UInt8 → α → Prop) :
    List UInt8 → α → Prop where
  | mk {raw before after s : List UInt8} {name : String} {a : α} : spelled raw name → Blank before →
      Blank after → value name s a →
      Named spelled value (0x22 :: raw ++ 0x22 :: (before ++ 0x3A :: (after ++ s))) a

def readNamed {α : Type} (lexer : Lexer) (reader : String → List UInt8 → Except Error (Found α))
    (s : List UInt8) : Except Error (Found α) := do
  let (name, rest) ← readName lexer s
  let rest ← readColon rest
  reader name rest

theorem readName_eq_ok_iff {lexer : Lexer} {s : List UInt8} {name : String} {rest : List UInt8} :
    readName lexer s = .ok (name, rest) ↔ ∃ t, s = 0x22 :: t ∧ lexer.string t = .ok (name, rest) := by
  constructor
  · intro h
    cases s with
    | nil => cases h
    | cons b t =>
      unfold readName at h
      dsimp only at h
      split_ifs at h with hquote
      exact ⟨t, by rw [eq_of_beq hquote], h⟩
  · rintro ⟨t, rfl, h⟩
    exact h

theorem named_reads {α : Type} {lexer : Lexer} {spelled : List UInt8 → String → Prop}
    (hstring : ∀ s name rest, lexer.string s = .ok (name, rest) ↔
      ∃ raw, s = raw ++ 0x22 :: rest ∧ spelled raw name)
    {value : String → List UInt8 → α → Prop} {reader : String → List UInt8 → Except Error (Found α)}
    (hreads : ∀ name, Reads (value name) (reader name))
    (happend : ∀ name before s a rest, Blank before → value name s a → Stops rest →
      reader name (before ++ (s ++ rest)) = .ok (a, rest)) :
    Reads (Named spelled value) (readNamed lexer reader) where
  starts := by
    rintro s _ ⟨⟩
    exact ⟨0x22, _, rfl, by decide, by decide, by decide⟩
  append := by
    rintro _ a rest @⟨raw, before, after, text, name, _, hraw, hbefore, hafter, ha⟩ hrest
    have hname : lexer.string (raw ++ 0x22 :: (before ++ 0x3A :: (after ++ (text ++ rest)))) =
        .ok (name, before ++ 0x3A :: (after ++ (text ++ rest))) :=
      (hstring _ _ _).mpr ⟨raw, rfl, hraw⟩
    have hcolon : readColon (before ++ 0x3A :: (after ++ (text ++ rest))) = .ok (after ++ (text ++ rest)) :=
      readColon_eq_ok_iff.mpr ⟨before, rfl, hbefore⟩
    have hvalue : reader name (after ++ (text ++ rest)) = .ok (a, rest) :=
      happend name after text a rest hafter ha hrest
    simp only [List.append_assoc, List.cons_append]
    apply bind_eq_ok_iff.mpr
    exact ⟨_, readName_eq_ok_iff.mpr ⟨_, rfl, hname⟩, bind_eq_ok_iff.mpr ⟨_, hcolon, hvalue⟩⟩
  sound := by
    intro s a rest h
    obtain ⟨⟨name, afterName⟩, hname, h⟩ := bind_eq_ok_iff.mp h
    obtain ⟨afterColon, hcolon, hvalue⟩ := bind_eq_ok_iff.mp h
    obtain ⟨before, rfl, hbefore⟩ := readColon_eq_ok_iff.mp hcolon
    obtain ⟨after, text, rfl, hafter, htext⟩ := (hreads name).sound hvalue
    obtain ⟨t, rfl, hread⟩ := readName_eq_ok_iff.mp hname
    obtain ⟨raw, rfl, hraw⟩ := (hstring _ _ _).mp hread
    exact ⟨[], 0x22 :: raw ++ 0x22 :: (before ++ 0x3A :: (after ++ text)), by simp,
      blank_nil, .mk hraw hbefore hafter htext⟩

/-- What stands for the image of something. -/
def Image {α β : Type} (f : α → β) (item : List UInt8 → α → Prop) (s : List UInt8) (b : β) : Prop :=
  ∃ a, item s a ∧ b = f a

def readImage {α β : Type} (f : α → β) (reader : List UInt8 → Except Error (Found α)) (s : List UInt8) :
    Except Error (Found β) := do
  let (a, rest) ← reader s
  return (f a, rest)

theorem Reads.image {α β : Type} {item : List UInt8 → α → Prop} {reader : List UInt8 → Except Error (Found α)}
    (hreads : Reads item reader) (f : α → β) : Reads (Image f item) (readImage f reader) where
  starts := by
    rintro s _ ⟨a, ha, -⟩
    exact hreads.starts ha
  append := by
    rintro s _ rest ⟨a, ha, rfl⟩ hrest
    exact bind_eq_ok_iff.mpr ⟨(a, rest), hreads.append ha hrest, rfl⟩
  sound h := by
    obtain ⟨⟨a, after⟩, hread, h⟩ := bind_eq_ok_iff.mp h
    cases h
    obtain ⟨before, text, hs, hbefore, htext⟩ := hreads.sound hread
    exact ⟨before, text, hs, hbefore, a, htext, rfl⟩

/-- A value that is kept with its name. -/
def Under (value : List UInt8 → Value → Prop) (name : String) : List UInt8 → String × Value → Prop :=
  Image (Prod.mk name) value

/-- A member is read as a name and the value under it. -/
theorem named_under_reads {lexer : Lexer} {spelled : List UInt8 → String → Prop}
    (hstring : ∀ s name rest, lexer.string s = .ok (name, rest) ↔
      ∃ raw, s = raw ++ 0x22 :: rest ∧ spelled raw name)
    {value : List UInt8 → Value → Prop} {reader : List UInt8 → Except Error (Found Value)}
    (hreads : Reads value reader)
    (hskip : ∀ before s, Blank before → reader (before ++ s) = reader s) :
    Reads (Named spelled (Under value)) (readMember lexer reader) := by
  have himage (name : String) : Reads (Under value name) (readImage (Prod.mk name) reader) :=
    hreads.image (Prod.mk name)
  refine named_reads hstring himage fun name before s m rest hbefore hm hrest => ?_
  rw [readImage, hskip before _ hbefore]
  exact (himage name).append hm hrest

/-- An array of such values or an object of such members. -/
inductive Bracketed (value : List UInt8 → Value → Prop) (member : List UInt8 → String × Value → Prop) :
    List UInt8 → Value → Prop where
  | array {s : List UInt8} {items : List Value} : Sequence value s items →
      Bracketed value member (0x5B :: s ++ [0x5D]) (.array items)
  | object {s : List UInt8} {members : List (String × Value)} : Sequence member s members →
      Bracketed value member (0x7B :: s ++ [0x7D]) (.object members)

section Values

variable {lexer : Lexer}

theorem readValue_skipSpace (lexer : Lexer) (depth : Nat) {before : List UInt8} (h : Blank before)
    (s : List UInt8) : readValue lexer depth (before ++ s) = readValue lexer depth s := by
  cases depth <;> simp only [readValue, skipSpace_append h]

theorem readValue_of_scalar {depth : Nat} {s : List UInt8}
    (h : Free (fun b => b = 0x5B ∨ b = 0x7B) (skipSpace s)) :
    readValue lexer depth s = readScalar lexer (skipSpace s) := by
  cases depth with
  | zero =>
    unfold readValue
    split
    · next hskip => exact absurd (.inl rfl) (h _ (by rw [hskip]; rfl))
    · next hskip => exact absurd (.inr rfl) (h _ (by rw [hskip]; rfl))
    · rfl
  | succ depth =>
    unfold readValue
    split
    · next hskip => exact absurd (.inl rfl) (h _ (by rw [hskip]; rfl))
    · next hskip => exact absurd (.inr rfl) (h _ (by rw [hskip]; rfl))
    · rfl

theorem readValue_array (depth : Nat) (rest : List UInt8) :
    readValue lexer (depth + 1) (0x5B :: rest) = (do
      let (items, rest) ← readSequence (readValue lexer depth) 0x5D rest
      return (.array items, rest)) := rfl

theorem readValue_object (depth : Nat) (rest : List UInt8) :
    readValue lexer (depth + 1) (0x7B :: rest) = (do
      let (members, rest) ← readSequence (readMember lexer (readValue lexer depth)) 0x7D rest
      return (.object members, rest)) := rfl

theorem StartsScalar.ne {b : UInt8} (h : StartsScalar b) {x : UInt8} (hx : ¬ StartsScalar x) : b ≠ x := by
  rintro rfl
  exact hx h

instance (b : UInt8) : Decidable (StartsScalar b) :=
  inferInstanceAs (Decidable (_ ∨ _))

theorem StartsScalar.isSpace_eq_false {b : UInt8} (h : StartsScalar b) : isSpace b = false := by
  rw [Bool.eq_false_iff, Ne, isSpace_iff]
  rintro (rfl | rfl | rfl | rfl) <;> exact absurd h (by decide)

variable {scalar : List UInt8 → Value → Prop}

theorem ReadsScalars.starts_value (hscalars : ReadsScalars scalar lexer) {s : List UInt8} {v : Value}
    (h : scalar s v) : ∃ b t, s = b :: t ∧ isSpace b = false ∧ b ≠ 0x5D ∧ b ≠ 0x7D := by
  obtain ⟨b, t, rfl, hb⟩ := hscalars.starts h
  exact ⟨b, t, rfl, hb.isSpace_eq_false, hb.ne (by decide), hb.ne (by decide)⟩

theorem readValue_scalar (hscalars : ReadsScalars scalar lexer) (depth : Nat) {s : List UInt8} {v : Value}
    (h : scalar s v) {rest : List UInt8} (hrest : Stops rest) :
    readValue lexer depth (s ++ rest) = .ok (v, rest) := by
  have hread := hscalars.append h hrest
  obtain ⟨b, t, rfl, hb⟩ := hscalars.starts h
  have hskip : skipSpace (b :: t ++ rest) = b :: t ++ rest := skipSpace_cons hb.isSpace_eq_false _
  rw [readValue_of_scalar, hskip, hread]
  rw [hskip]
  intro c hc
  obtain rfl := Option.some.inj hc
  exact not_or.mpr ⟨hb.ne (by decide), hb.ne (by decide)⟩

theorem exists_of_readValue_scalar (hscalars : ReadsScalars scalar lexer) {depth : Nat} {s : List UInt8}
    (hfree : Free (fun b => b = 0x5B ∨ b = 0x7B) (skipSpace s)) {v : Value} {rest : List UInt8}
    (h : readValue lexer depth s = .ok (v, rest)) :
    ∃ before text, s = before ++ (text ++ rest) ∧ Blank before ∧ scalar text v := by
  rw [readValue_of_scalar hfree] at h
  obtain ⟨before, hs, hbefore⟩ := exists_blank s
  obtain ⟨text, htext, hscalar⟩ := hscalars.sound h
  exact ⟨before, text, by rw [← htext, ← hs], hbefore, hscalar⟩

/-- What the reader makes of a text is decided by its first byte that is not blank. -/
theorem readValue_cases (hscalars : ReadsScalars scalar lexer) {depth : Nat} {s : List UInt8} {v : Value}
    {rest : List UInt8} (h : readValue lexer depth s = .ok (v, rest)) :
    (∃ before text, s = before ++ (text ++ rest) ∧ Blank before ∧ scalar text v) ∨
    ∃ before b tail, s = before ++ b :: tail ∧ Blank before ∧ (b = 0x5B ∨ b = 0x7B) ∧
      readValue lexer depth (b :: tail) = .ok (v, rest) := by
  by_cases hfree : Free (fun b => b = 0x5B ∨ b = 0x7B) (skipSpace s)
  · exact .inl (exists_of_readValue_scalar hscalars hfree h)
  · simp only [Free, not_forall, not_not] at hfree
    obtain ⟨b, hhead, hb⟩ := hfree
    obtain ⟨tail, htail⟩ := List.head?_eq_some_iff.mp hhead
    obtain ⟨before, hs, hbefore⟩ := exists_blank s
    rw [htail] at hs
    rw [hs, readValue_skipSpace lexer depth hbefore] at h
    exact .inr ⟨before, b, tail, hs, hbefore, hb, h⟩

theorem reads_flat (hscalars : ReadsScalars scalar lexer) : Reads scalar (readValue lexer 0) := by
  refine ⟨hscalars.starts_value, fun h hrest => readValue_scalar hscalars 0 h hrest, fun h => ?_⟩
  rcases readValue_cases hscalars h with hscalar | ⟨before, b, tail, rfl, -, rfl | rfl, h⟩
  · exact hscalar
  · cases h
  · cases h

/-- One level more: scalars, and brackets around what the level below reads. -/
theorem reads_bracketed (hscalars : ReadsScalars scalar lexer) {depth : Nat}
    {value : List UInt8 → Value → Prop} (hvalue : Reads value (readValue lexer depth))
    {member : List UInt8 → String × Value → Prop}
    (hmember : Reads member (readMember lexer (readValue lexer depth))) :
    Reads (fun s v => scalar s v ∨ Bracketed value member s v) (readValue lexer (depth + 1)) where
  starts h := by
    rcases h with h | h
    · exact hscalars.starts_value h
    · cases h with
      | array => exact ⟨_, _, rfl, by decide, by decide, by decide⟩
      | object => exact ⟨_, _, rfl, by decide, by decide, by decide⟩
  append {s v rest} h hrest := by
    rcases h with h | h
    · exact readValue_scalar hscalars (depth + 1) h hrest
    · cases h with
      | @array inner items h =>
        rw [List.append_assoc, List.cons_append, List.singleton_append, readValue_array, bind_eq_ok_iff]
        exact ⟨(items, rest), readSequence_append hvalue (.inl rfl) h rest, rfl⟩
      | @object inner members h =>
        rw [List.append_assoc, List.cons_append, List.singleton_append, readValue_object, bind_eq_ok_iff]
        exact ⟨(members, rest), readSequence_append hmember (.inr rfl) h rest, rfl⟩
  sound {s v rest} h := by
    rcases readValue_cases hscalars h with
      ⟨before, text, hs, hbefore, h⟩ | ⟨before, b, tail, rfl, hbefore, rfl | rfl, h⟩
    · exact ⟨before, text, hs, hbefore, .inl h⟩
    · rw [readValue_array, bind_eq_ok_iff] at h
      obtain ⟨⟨items, rest⟩, hread, h⟩ := h
      cases h
      obtain ⟨inner, rfl, hinner⟩ := exists_of_readSequence hvalue hread
      exact ⟨before, 0x5B :: inner ++ [0x5D], by simp, hbefore, .inr (.array hinner)⟩
    · rw [readValue_object, bind_eq_ok_iff] at h
      obtain ⟨⟨members, rest⟩, hread, h⟩ := h
      cases h
      obtain ⟨inner, rfl, hinner⟩ := exists_of_readSequence hmember hread
      exact ⟨before, 0x7B :: inner ++ [0x7D], by simp, hbefore, .inr (.object hinner)⟩

end Values

theorem member_iff_named {value : List UInt8 → Value → Prop} {s : List UInt8} {m : String × Value} :
    Member value s m ↔ Named (fun raw name => Spells raw name.toList) (Under value) s m := by
  constructor
  · rintro ⟨hraw, hbefore, hafter, hv⟩
    exact .mk hraw hbefore hafter ⟨_, hv, rfl⟩
  · rintro ⟨hraw, hbefore, hafter, v, hv, rfl⟩
    exact .mk hraw hbefore hafter hv

theorem container_iff_bracketed {value : List UInt8 → Value → Prop} {s : List UInt8} {v : Value} :
    Container value s v ↔ Bracketed value (Member value) s v := by
  constructor
  · rintro (h | h)
    · exact .array h
    · exact .object h
  · rintro (h | h)
    · exact .array h
    · exact .object h

theorem denotes_reads (depth : Nat) : Reads (Denotes depth) (readValue .checking depth) := by
  induction depth with
  | zero => exact reads_flat scalar_reads
  | succ depth ih =>
    have hstring (s : List UInt8) (name : String) (rest : List UInt8) :
        Lexer.checking.string s = .ok (name, rest) ↔ ∃ raw, s = raw ++ 0x22 :: rest ∧ Spells raw name.toList :=
      readString_eq_ok_iff
    have hnamed := named_under_reads hstring ih fun before s hbefore =>
      readValue_skipSpace .checking depth hbefore s
    have hmember : Reads (Member (Denotes depth)) (readMember .checking (readValue .checking depth)) :=
      hnamed.congr fun _ _ => member_iff_named
    exact (reads_bracketed scalar_reads ih hmember).congr fun _ _ => or_congr_right container_iff_bracketed

/-! ### Texts -/

theorem readEnd_eq_ok_iff {s : List UInt8} : readEnd s = .ok () ↔ Blank s := by
  have hempty : (skipSpace s).isEmpty = true ↔ Blank s := by
    rw [List.isEmpty_iff, skipSpace, List.dropWhile_eq_nil_iff]
    exact forall₂_congr fun b _ => isSpace_iff
  rw [readEnd, ← hempty]
  split <;> simp_all

/-- A text is read exactly when it denotes a value, and as that value. -/
theorem read_eq_ok_iff {s : List UInt8} {v : Value} : read s = .ok v ↔ IsText s v := by
  constructor
  · intro h
    obtain ⟨⟨v', rest⟩, hvalue, h⟩ := bind_eq_ok_iff.mp h
    obtain ⟨⟨⟩, hend, h⟩ := bind_eq_ok_iff.mp h
    cases h
    obtain ⟨before, inner, hs, hbefore, hinner⟩ := (denotes_reads maxDepth).sound hvalue
    exact ⟨before, inner, rest, hs, hbefore, readEnd_eq_ok_iff.mp hend, hinner⟩
  · rintro ⟨before, inner, after, rfl, hbefore, hafter, hinner⟩
    have hvalue := (denotes_reads 127).append hinner (hafter.free (by decide))
    apply bind_eq_ok_iff.mpr
    refine ⟨(v, after), (readValue_skipSpace .checking maxDepth hbefore _).trans hvalue, ?_⟩
    exact bind_eq_ok_iff.mpr ⟨(), readEnd_eq_ok_iff.mpr hafter, rfl⟩

theorem IsText.unique {s : List UInt8} {v w : Value} (hv : IsText s v) (hw : IsText s w) : v = w :=
  Except.ok.inj ((read_eq_ok_iff.mpr hv).symm.trans (read_eq_ok_iff.mpr hw))

end KeyApproval.Json
