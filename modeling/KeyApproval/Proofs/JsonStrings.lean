import KeyApproval.Json.Reader
import KeyApproval.Proofs.WellFormedText
import Mathlib.Tactic.SplitIfs

/-!
# The strings of JSON

How strings are spelled, and that the reader knows these spellings and no others. A string is read in two
steps, first byte by byte and then as text; since no escape gives half a character, both steps together
read it character by character.
-/

namespace KeyApproval.Json

open Text.Utf8

/-! ### The spelling of strings -/

/-- A digit of base sixteen in either case. -/
inductive HexDigit : UInt8 → Nat → Prop where
  | decimal {b : UInt8} {n : Nat} : Holds 0x30 10 b n → HexDigit b n
  | upper {b : UInt8} {n : Nat} : Holds 0x41 6 b n → HexDigit b (n + 10)
  | lower {b : UInt8} {n : Nat} : Holds 0x61 6 b n → HexDigit b (n + 10)

/-- Four digits of base sixteen and their value. -/
inductive Hex4 : List UInt8 → Nat → Prop where
  | mk {a b c d : UInt8} {w x y z : Nat} : HexDigit a w → HexDigit b x → HexDigit c y → HexDigit d z →
      Hex4 [a, b, c, d] (((w * 16 + x) * 16 + y) * 16 + z)

/-- The characters that have an escape of one letter. -/
def shortEscapes : List (UInt8 × Char) :=
  [(0x22, '"'), (0x5C, '\\'), (0x2F, '/'), (0x62, '\x08'), (0x66, '\x0c'), (0x6E, '\n'), (0x72, '\r'),
    (0x74, '\t')]

/-- What stands for one character after a backslash. -/
inductive Escaped : List UInt8 → Char → Prop where
  | short {b : UInt8} {c : Char} : (b, c) ∈ shortEscapes → Escaped [b] c
  | unit {digits : List UInt8} {n : Nat} : Hex4 digits n → ¬ (0xD800 ≤ n ∧ n ≤ 0xDFFF) →
      Escaped (0x75 :: digits) (Char.ofNat n)
  | pair {high low : List UInt8} {m n : Nat} : Hex4 high m → 0xD800 ≤ m ∧ m ≤ 0xDBFF → Hex4 low n →
      0xDC00 ≤ n ∧ n ≤ 0xDFFF →
      Escaped (0x75 :: high ++ 0x5C :: 0x75 :: low)
        (Char.ofNat (0x10000 + (m - 0xD800) * 0x400 + (n - 0xDC00)))

/-- The bytes between the quotes of a string, and the text that they spell: characters as they are, but for
quotes, backslashes and all below the space, and escapes. -/
inductive Spells : List UInt8 → List Char → Prop where
  | nil : Spells [] []
  | plain {c : Char} {s : List UInt8} {text : List Char} : 0x20 ≤ c.toNat → c ≠ '"' → c ≠ '\\' →
      Spells s text → Spells (encodeChar c ++ s) (c :: text)
  | escaped {c : Char} {e s : List UInt8} {text : List Char} : Escaped e c → Spells s text →
      Spells (0x5C :: e ++ s) (c :: text)

/-! ### Reading escapes -/

theorem bind_eq_ok_iff {α β : Type} {x : Except Error α} {f : α → Except Error β} {b : β} :
    (x >>= f) = .ok b ↔ ∃ a, x = .ok a ∧ f a = .ok b := by
  cases x with
  | error e => simp [bind, Except.bind]
  | ok a => simp [bind, Except.bind]

/-- What holds of all numbers below 256 holds of all bytes. -/
theorem forall_byte {p : UInt8 → Prop} (h : ∀ i : Fin 256, p (UInt8.ofNat i)) (b : UInt8) : p b := by
  have hb := h ⟨b.toNat, b.toNat_lt⟩
  rwa [UInt8.ofNat_toNat] at hb

theorem hexDigit?_eq (b : UInt8) :
    hexDigit? b =
      if 0x30 ≤ b.toNat ∧ b.toNat ≤ 0x39 then some (b.toNat - 0x30)
      else if 0x41 ≤ b.toNat ∧ b.toNat ≤ 0x46 then some (b.toNat - 0x41 + 10)
      else if 0x61 ≤ b.toNat ∧ b.toNat ≤ 0x66 then some (b.toNat - 0x61 + 10)
      else none := by
  revert b
  exact forall_byte (by decide +kernel)

theorem hexDigit?_eq_some_iff {b : UInt8} {n : Nat} : hexDigit? b = some n ↔ HexDigit b n := by
  rw [hexDigit?_eq]
  constructor
  · intro h
    split_ifs at h with h1 h2 h3
    · obtain rfl := Option.some.inj h
      exact .decimal ⟨by omega, by omega⟩
    · obtain rfl := Option.some.inj h
      exact .upper ⟨by omega, by omega⟩
    · obtain rfl := Option.some.inj h
      exact .lower ⟨by omega, by omega⟩
  · intro h
    cases h with
    | decimal h =>
      obtain ⟨hb, hn⟩ := h
      rw [if_pos (by omega)]
      exact congrArg some (by omega)
    | upper h =>
      obtain ⟨hb, hn⟩ := h
      rw [if_neg (by omega), if_pos (by omega)]
      exact congrArg some (by omega)
    | lower h =>
      obtain ⟨hb, hn⟩ := h
      rw [if_neg (by omega), if_neg (by omega), if_pos (by omega)]
      exact congrArg some (by omega)

theorem simpleEscape?_eq_some_iff {b : UInt8} {c : Char} :
    simpleEscape? b = some c ↔ (b, c) ∈ shortEscapes := by
  constructor
  · intro h
    have htable : ∀ b : UInt8, (simpleEscape? b).all (fun c => shortEscapes.contains (b, c)) = true :=
      forall_byte (by decide +kernel)
    have hb := htable b
    rw [h] at hb
    exact List.contains_iff_mem.mp hb
  · have htable : ∀ entry ∈ shortEscapes, simpleEscape? entry.1 = some entry.2 := by decide +kernel
    exact htable (b, c)

theorem readHex4_eq_ok_iff {s : List UInt8} {n : Nat} :
    readHex4 s = .ok n ↔ ∃ digits rest, s = digits ++ rest ∧ Hex4 digits n := by
  have hvalue (w x y z : Nat) :
      Text.digitsValue 16 [w, x, y, z] = ((w * 16 + x) * 16 + y) * 16 + z := by
    simp [Text.digitsValue]
  constructor
  · intro h
    unfold readHex4 at h
    split at h
    · next a b c d rest =>
      split at h
      · next w x y z hw hx hy hz =>
        obtain rfl := (Except.ok.inj h).symm
        rw [hvalue]
        exact ⟨[a, b, c, d], rest, rfl, .mk (hexDigit?_eq_some_iff.mp hw) (hexDigit?_eq_some_iff.mp hx)
          (hexDigit?_eq_some_iff.mp hy) (hexDigit?_eq_some_iff.mp hz)⟩
      · cases h
    · cases h
  · rintro ⟨_, rest, rfl, ⟨ha, hb, hc, hd⟩⟩
    simp only [List.cons_append, List.nil_append, readHex4, hexDigit?_eq_some_iff.mpr ha,
      hexDigit?_eq_some_iff.mpr hb, hexDigit?_eq_some_iff.mpr hc, hexDigit?_eq_some_iff.mpr hd, hvalue]

theorem Hex4.length_eq {digits : List UInt8} {n : Nat} (h : Hex4 digits n) : digits.length = 4 := by
  cases h
  rfl

theorem readLowSurrogate_eq (m : Nat) (digits : List UInt8) :
    readLowSurrogate m (0x5C :: 0x75 :: digits) = (do
      let low ← readHex4 digits
      if 0xDC00 ≤ low ∧ low ≤ 0xDFFF then
        return (Char.ofNat (0x10000 + (m - 0xD800) * 0x400 + (low - 0xDC00)), 11)
      else throw .malformed) := rfl

theorem eq_of_readLowSurrogate {m : Nat} {s : List UInt8} {found : Escape}
    (h : readLowSurrogate m s = .ok found) : ∃ digits, s = 0x5C :: 0x75 :: digits := by
  unfold readLowSurrogate at h
  split at h
  · cases h
  · next b rest =>
    by_cases hb : b = 0x5C
    · subst hb
      rw [if_neg (by decide)] at h
      split at h
      · cases h
      · next u digits =>
        by_cases hu : u = 0x75
        · exact ⟨digits, by rw [hu]⟩
        · rw [if_pos (bne_iff_ne.mpr hu)] at h
          cases h
    · rw [if_pos (bne_iff_ne.mpr hb)] at h
      cases h

theorem readLowSurrogate_eq_ok_iff {m : Nat} {s : List UInt8} {c : Char} {width : Nat} :
    readLowSurrogate m s = .ok (c, width) ↔
      ∃ low n rest, s = 0x5C :: 0x75 :: low ++ rest ∧ Hex4 low n ∧ (0xDC00 ≤ n ∧ n ≤ 0xDFFF) ∧
        c = Char.ofNat (0x10000 + (m - 0xD800) * 0x400 + (n - 0xDC00)) ∧ width = 11 := by
  constructor
  · intro h
    obtain ⟨digits, rfl⟩ := eq_of_readLowSurrogate h
    rw [readLowSurrogate_eq, bind_eq_ok_iff] at h
    obtain ⟨n, hread, hunit⟩ := h
    obtain ⟨low, rest, rfl, hlow⟩ := readHex4_eq_ok_iff.mp hread
    split_ifs at hunit with hn
    obtain ⟨hc, hwidth⟩ := Prod.mk.inj (Except.ok.inj hunit)
    exact ⟨low, n, rest, rfl, hlow, hn, hc.symm, hwidth.symm⟩
  · rintro ⟨low, n, rest, rfl, hlow, hn, hc, rfl⟩
    rw [List.cons_append, List.cons_append, readLowSurrogate_eq, bind_eq_ok_iff]
    refine ⟨n, readHex4_eq_ok_iff.mpr ⟨low, rest, rfl, hlow⟩, ?_⟩
    rw [if_pos hn, hc]
    rfl

theorem readEscape_unit (rest : List UInt8) :
    readEscape (0x75 :: rest) = (do
      let unit ← readHex4 rest
      if 0xDC00 ≤ unit ∧ unit ≤ 0xDFFF then throw .malformed
      else if 0xD800 ≤ unit ∧ unit ≤ 0xDBFF then readLowSurrogate unit (rest.drop 4)
      else return (Char.ofNat unit, 5)) := rfl

theorem readEscape_of_ne {b : UInt8} (h : b ≠ 0x75) {rest : List UInt8} {found : Escape} :
    readEscape (b :: rest) = .ok found ↔ ∃ c, simpleEscape? b = some c ∧ found = (c, 1) := by
  have hread : readEscape (b :: rest) =
      (simpleEscape? b).elim (.error .malformed) fun c => .ok (c, 1) := by
    refine (if_neg (by simpa using h)).trans ?_
    cases simpleEscape? b <;> rfl
  rw [hread]
  cases simpleEscape? b with
  | none => simp
  | some c => simp [eq_comm]

/-- An escape is read whole, and the number of bytes that it takes is known. -/
theorem readEscape_eq_ok_iff {s : List UInt8} {c : Char} {width : Nat} :
    readEscape s = .ok (c, width) ↔
      ∃ e rest, s = e ++ rest ∧ e.length = width ∧ Escaped e c := by
  constructor
  · intro h
    cases s with
    | nil => cases h
    | cons b rest =>
      by_cases hb : b = 0x75
      · subst hb
        rw [readEscape_unit, bind_eq_ok_iff] at h
        obtain ⟨m, hread, hunit⟩ := h
        obtain ⟨digits, rest, rfl, hdigits⟩ := readHex4_eq_ok_iff.mp hread
        have hlength := hdigits.length_eq
        split_ifs at hunit with hlow hhigh
        · rw [← hlength, List.drop_left] at hunit
          obtain ⟨low, n, rest, hdrop, hlow, hn, hc, hwidth⟩ := readLowSurrogate_eq_ok_iff.mp hunit
          refine ⟨0x75 :: digits ++ 0x5C :: 0x75 :: low, rest, by simp [hdrop], ?_, ?_⟩
          · simp [hlength, hlow.length_eq, hwidth]
          · rw [hc]
            exact .pair hdigits hhigh hlow hn
        · cases hunit
          exact ⟨0x75 :: digits, rest, rfl, by simp [hlength], .unit hdigits (by omega)⟩
      · obtain ⟨d, hd, hfound⟩ := (readEscape_of_ne hb).mp h
        cases hfound
        exact ⟨[b], rest, rfl, rfl, .short (simpleEscape?_eq_some_iff.mp hd)⟩
  · rintro ⟨e, rest, rfl, rfl, he⟩
    cases he with
    | @short b c hb =>
      have hne : ∀ entry ∈ shortEscapes, entry.1 ≠ 0x75 := by decide
      exact (readEscape_of_ne (hne _ hb)).mpr ⟨c, simpleEscape?_eq_some_iff.mpr hb, rfl⟩
    | @unit digits n hdigits hn =>
      rw [List.cons_append, readEscape_unit, bind_eq_ok_iff]
      refine ⟨n, readHex4_eq_ok_iff.mpr ⟨digits, rest, rfl, hdigits⟩, ?_⟩
      rw [if_neg (by omega), if_neg (by omega), List.length_cons, hdigits.length_eq]
      rfl
    | @pair high low m n hhigh hm hlow hn =>
      rw [List.cons_append, List.cons_append, List.append_assoc, readEscape_unit, bind_eq_ok_iff]
      refine ⟨m, readHex4_eq_ok_iff.mpr ⟨high, _, rfl, hhigh⟩, ?_⟩
      rw [if_neg (by omega), if_pos hm, ← hhigh.length_eq, List.drop_left]
      apply readLowSurrogate_eq_ok_iff.mpr
      exact ⟨low, n, rest, rfl, hlow, hn, rfl, by simp [hhigh.length_eq, hlow.length_eq]⟩

theorem escaped_of_readEscape {e : List UInt8} {c : Char} (h : readEscape e = .ok (c, e.length)) :
    Escaped e c := by
  obtain ⟨e', rest, hsplit, hlength, hescaped⟩ := readEscape_eq_ok_iff.mp h
  have hrest : rest.length = 0 := by
    have := congrArg List.length hsplit
    rw [List.length_append] at this
    omega
  rwa [hsplit, List.eq_nil_of_length_eq_zero hrest, List.append_nil]

/-! ### Reading strings -/

/-- What the first step of the reader makes of the bytes between the quotes, with escapes of that kind. -/
inductive Content (kind : List UInt8 → Char → Prop) : List UInt8 → List UInt8 → Prop where
  | nil : Content kind [] []
  | raw {b : UInt8} {s content : List UInt8} : b ≠ 0x22 → b ≠ 0x5C → 0x20 ≤ b.toNat →
      Content kind s content → Content kind (b :: s) (b :: content)
  | escaped {c : Char} {e s content : List UInt8} : kind e c → Content kind s content →
      Content kind (0x5C :: e ++ s) (encodeChar c ++ content)

/-- A reader of escapes: it reads those of that kind, and says how many bytes they take. -/
def ReadsEscapes (kind : List UInt8 → Char → Prop) (reader : List UInt8 → Except Error Escape) : Prop :=
  ∀ s c width, reader s = .ok (c, width) ↔ ∃ e rest, s = e ++ rest ∧ e.length = width ∧ kind e c

theorem escaped_reads : ReadsEscapes Escaped readEscape := fun _ _ _ => readEscape_eq_ok_iff

theorem readContent_backslash (escape : List UInt8 → Except Error Escape) (rest : List UInt8) :
    readContent escape 0 (0x5C :: rest) = (do
      let (c, width) ← escape rest
      let (tail, after) ← readContent escape width rest
      return (encodeChar c ++ tail, after)) := rfl

theorem readContent_raw (escape : List UInt8 → Except Error Escape) {b : UInt8} (hquote : b ≠ 0x22)
    (hslash : b ≠ 0x5C) (rest : List UInt8) :
    readContent escape 0 (b :: rest) =
      if b < 0x20 then .error .malformed
      else do
        let (tail, after) ← readContent escape 0 rest
        return (b :: tail, after) :=
  (if_neg (by simpa using hquote)).trans (if_neg (by simpa using hslash))

theorem readContent_skip (escape : List UInt8 → Except Error Escape) (e s : List UInt8) :
    readContent escape e.length (e ++ s) = readContent escape 0 s := by
  induction e with
  | nil => rfl
  | cons b e ih => exact ih

section Contents

variable {kind : List UInt8 → Char → Prop} {reader : List UInt8 → Except Error Escape}

theorem exists_content_of_readContent (hreads : ReadsEscapes kind reader) {skip : Nat}
    {s content rest : List UInt8} (h : readContent reader skip s = .ok (content, rest)) :
    ∃ raw, s.drop skip = raw ++ 0x22 :: rest ∧ Content kind raw content := by
  induction s generalizing skip content with
  | nil => cases h
  | cons b s ih =>
    cases skip with
    | succ skip => exact ih h
    | zero =>
      by_cases hquote : b = 0x22
      · subst hquote
        cases h
        exact ⟨[], rfl, .nil⟩
      · by_cases hslash : b = 0x5C
        · subst hslash
          rw [readContent_backslash, bind_eq_ok_iff] at h
          obtain ⟨⟨c, width⟩, hescape, h⟩ := h
          obtain ⟨⟨tail, after⟩, htail, h⟩ := bind_eq_ok_iff.mp h
          cases h
          obtain ⟨e, s, rfl, rfl, he⟩ := (hreads _ _ _).mp hescape
          obtain ⟨raw, hraw, hcontent⟩ := ih htail
          rw [List.drop_left] at hraw
          exact ⟨0x5C :: e ++ raw, by simp [hraw], .escaped he hcontent⟩
        · rw [readContent_raw _ hquote hslash] at h
          split_ifs at h with hlow
          obtain ⟨⟨tail, after⟩, htail, h⟩ := bind_eq_ok_iff.mp h
          cases h
          obtain ⟨raw, hraw, hcontent⟩ := ih htail
          refine ⟨b :: raw, by simpa using hraw, .raw hquote hslash ?_ hcontent⟩
          rw [UInt8.lt_iff_toNat_lt, Nat.not_lt] at hlow
          exact hlow

theorem readContent_of_content (hreads : ReadsEscapes kind reader) {raw content : List UInt8}
    (h : Content kind raw content) (rest : List UInt8) :
    readContent reader 0 (raw ++ 0x22 :: rest) = .ok (content, rest) := by
  induction h with
  | nil => rfl
  | raw hquote hslash hlow _ ih =>
    rw [List.cons_append, readContent_raw _ hquote hslash, ih, if_neg]
    · rfl
    · rw [UInt8.lt_iff_toNat_lt, Nat.not_lt]
      exact hlow
  | @escaped c e s content he _ ih =>
    rw [List.append_assoc, List.cons_append, readContent_backslash, bind_eq_ok_iff]
    refine ⟨(c, e.length), (hreads _ _ _).mpr ⟨e, _, rfl, rfl, he⟩, ?_⟩
    apply bind_eq_ok_iff.mpr
    exact ⟨(content, rest), by rw [readContent_skip, ih], rfl⟩

end Contents

/-! A character is either escaped as a whole or spelled as a whole. -/

theorem exists_encodeChar_eq (c : Char) :
    ∃ b tail, encodeChar c = b :: tail ∧ isContinuation b = false ∧ ∀ x ∈ tail, isContinuation x = true := by
  have hcontinues {b : UInt8} {n : Nat} (h : Holds 0x80 0x40 b n) : isContinuation b = true := by
    rw [isContinuation_iff, h.value]
    have := h.lt
    omega
  have hstarts {mark room n : Nat} {b : UInt8} (h : Holds mark room b n)
      (hmark : mark + room ≤ 0x80 ∨ 0xC0 ≤ mark) : isContinuation b = false := by
    rw [Bool.eq_false_iff, Ne, isContinuation_iff, h.value]
    have := h.lt
    omega
  generalize hbytes : encodeChar c = bytes
  have hsequence : IsSequence bytes c.toNat := hbytes ▸ isSequence_encodeChar c
  cases hsequence with
  | one ha => exact ⟨_, _, rfl, hstarts ha (.inl (by omega)), by simp⟩
  | two ha hb => exact ⟨_, _, rfl, hstarts ha (.inr (by omega)), by simp [hcontinues hb]⟩
  | three ha hb hc => exact ⟨_, _, rfl, hstarts ha (.inr (by omega)), by simp [hcontinues hb, hcontinues hc]⟩
  | four ha hb hc hd =>
    exact ⟨_, _, rfl, hstarts ha (.inr (by omega)), by simp [hcontinues hb, hcontinues hc, hcontinues hd]⟩

/-- An ASCII character is its own byte, and the bytes of others are not ASCII. -/
theorem toNat_of_mem_encodeChar {c : Char} {b : UInt8} (h : b ∈ encodeChar c) :
    b.toNat = c.toNat ∨ 0x80 ≤ b.toNat ∧ 0x80 ≤ c.toNat := by
  have hsequence := isSequence_encodeChar c
  generalize encodeChar c = bytes at h hsequence
  cases hsequence with
  | one ha =>
    obtain rfl := List.mem_singleton.mp h
    exact .inl (by rw [ha.value, Nat.zero_add])
  | two ha hb _ hmin =>
    refine .inr ⟨?_, hmin⟩
    simp only [List.mem_cons, List.not_mem_nil, or_false] at h
    rcases h with rfl | rfl
    · rw [ha.value]; omega
    · rw [hb.value]; omega
  | three ha hb hc _ hmin =>
    refine .inr ⟨?_, by omega⟩
    simp only [List.mem_cons, List.not_mem_nil, or_false] at h
    rcases h with rfl | rfl | rfl
    · rw [ha.value]; omega
    · rw [hb.value]; omega
    · rw [hc.value]; omega
  | four ha hb hc hd _ hmin =>
    refine .inr ⟨?_, by omega⟩
    simp only [List.mem_cons, List.not_mem_nil, or_false] at h
    rcases h with rfl | rfl | rfl | rfl
    · rw [ha.value]; omega
    · rw [hb.value]; omega
    · rw [hc.value]; omega
    · rw [hd.value]; omega

theorem isPlain_iff {c : Char} {b : UInt8} (h : b ∈ encodeChar c) :
    (0x20 ≤ c.toNat ∧ c ≠ '"' ∧ c ≠ '\\') ↔ (b ≠ 0x22 ∧ b ≠ 0x5C ∧ 0x20 ≤ b.toNat) := by
  have hb : b = 0x22 ↔ b.toNat = 0x22 := UInt8.toNat_inj.symm
  have hb' : b = 0x5C ↔ b.toNat = 0x5C := UInt8.toNat_inj.symm
  have hc : c = '"' ↔ c.toNat = 0x22 := Char.toNat_inj.symm
  have hc' : c = '\\' ↔ c.toNat = 0x5C := Char.toNat_inj.symm
  rw [Ne, Ne, Ne, Ne, hb, hb', hc, hc']
  have := toNat_of_mem_encodeChar h
  omega

/-- Bytes that stand for themselves are kept as they are. -/
theorem Content.append {kind : List UInt8 → Char → Prop} {front s content : List UInt8}
    (h : ∀ b ∈ front, b ≠ 0x22 ∧ b ≠ 0x5C ∧ 0x20 ≤ b.toNat) (hs : Content kind s content) :
    Content kind (front ++ s) (front ++ content) := by
  induction front with
  | nil => exact hs
  | cons b front ih =>
    obtain ⟨⟨hquote, hslash, hlow⟩, hfront⟩ := List.forall_mem_cons.mp h
    exact .raw hquote hslash hlow (ih hfront)

theorem encodeChar_append_inj {c d : Char} {s t : List UInt8} (h : encodeChar c ++ s = encodeChar d ++ t) :
    c = d ∧ s = t := by
  have hpieces := congrArg pieces h
  rw [pieces_encodeChar_append, pieces_encodeChar_append] at hpieces
  obtain rfl := Piece.scalar.inj (List.cons.inj hpieces).1
  exact ⟨rfl, List.append_cancel_left h⟩

/-- Continuing bytes are never the work of an escape. -/
theorem Content.of_continuation {kind : List UInt8 → Char → Prop} {tail more s : List UInt8}
    (h : Content kind s (tail ++ more)) (htail : ∀ x ∈ tail, isContinuation x = true) :
    ∃ s', s = tail ++ s' ∧ Content kind s' more := by
  induction tail generalizing s with
  | nil => exact ⟨s, rfl, h⟩
  | cons x tail ih =>
    obtain ⟨hx, htail⟩ := List.forall_mem_cons.mp htail
    generalize hcontent : x :: tail ++ more = content at h
    cases h with
    | nil => cases hcontent
    | raw _ _ _ h =>
      cases hcontent
      obtain ⟨s', rfl, hs'⟩ := ih h htail
      exact ⟨s', rfl, hs'⟩
    | @escaped c =>
      obtain ⟨b, rest, hc, hb, -⟩ := exists_encodeChar_eq c
      rw [hc] at hcontent
      obtain rfl := (List.cons.inj hcontent).1
      exact absurd (hx.symm.trans hb) (by decide)

theorem content_encode_iff {raw : List UInt8} {text : List Char} :
    Content Escaped raw (encode text) ↔ Spells raw text := by
  constructor
  · intro h
    induction text generalizing raw with
    | nil =>
      generalize hcontent : encode [] = content at h
      cases h with
      | nil => exact .nil
      | raw => cases hcontent
      | @escaped d =>
        obtain ⟨b, tail, hd, -⟩ := exists_encodeChar_eq d
        rw [hd] at hcontent
        cases hcontent
    | cons c text ih =>
      obtain ⟨b, tail, hc, -, htail⟩ := exists_encodeChar_eq c
      generalize hcontent : encode (c :: text) = content at h
      rw [encode_cons] at hcontent
      cases h with
      | nil =>
        rw [hc] at hcontent
        cases hcontent
      | raw hquote hslash hlow h =>
        have hcons := hcontent
        rw [hc] at hcons
        obtain ⟨rfl, rfl⟩ := List.cons.inj hcons
        obtain ⟨s, rfl, hs⟩ := h.of_continuation htail
        have hfirst : b ∈ encodeChar c := by simp [hc]
        obtain ⟨hlow, hquote, hslash⟩ := (isPlain_iff hfirst).mpr ⟨hquote, hslash, hlow⟩
        rw [← List.cons_append, ← hc]
        exact .plain hlow hquote hslash (ih hs)
      | @escaped d e s content he h =>
        obtain ⟨rfl, rfl⟩ := encodeChar_append_inj hcontent
        exact .escaped he (ih h)
  · intro h
    induction h with
    | nil => exact .nil
    | plain hlow hquote hslash _ ih => exact ih.append fun b hb => (isPlain_iff hb).mp ⟨hlow, hquote, hslash⟩
    | escaped he _ ih => exact .escaped he ih

/-- A string is read up to its closing quote as the text that it spells. -/
theorem readString_eq_ok_iff {s : List UInt8} {text : String} {rest : List UInt8} :
    readString s = .ok (text, rest) ↔ ∃ raw, s = raw ++ 0x22 :: rest ∧ Spells raw text.toList := by
  constructor
  · intro h
    obtain ⟨⟨content, after⟩, hread, h⟩ := bind_eq_ok_iff.mp h
    obtain ⟨raw, hraw, hcontent⟩ := exists_content_of_readContent escaped_reads hread
    dsimp only at h
    split at h
    · next chars hdecode =>
      cases h
      rw [decode_eq_ok_iff.mp hdecode, content_encode_iff] at hcontent
      exact ⟨raw, hraw, by rwa [String.toList_ofList]⟩
    · cases h
  · rintro ⟨raw, rfl, hraw⟩
    apply bind_eq_ok_iff.mpr
    refine ⟨_, readContent_of_content escaped_reads (content_encode_iff.mpr hraw) rest, ?_⟩
    dsimp only
    rw [decode_encode]
    exact congrArg (fun t => Except.ok (t, rest)) String.ofList_toList

end KeyApproval.Json
