import KeyApproval.Text.Utf8
import Mathlib.Tactic.SplitIfs

/-!
# Well-formed text

The byte sequences that spell one code point, by the values they hold, against the reader, which decides
by ranges of bytes. Both know the same sequences, so a byte string is read as text exactly when it is
made of them, and what was written is what is read.
-/

namespace KeyApproval.Text.Utf8

/-- The byte holds `n` in the bits that `mark` leaves free, of which there are enough for `room` values. -/
structure Holds (mark room : Nat) (b : UInt8) (n : Nat) : Prop where
  value : b.toNat = mark + n
  lt : n < room

/-- A byte is known by what it holds. -/
theorem Holds.eq {mark room n : Nat} {b : UInt8} (h : Holds mark room b n) : b = (mark + n).toUInt8 := by
  rw [← h.value]
  simp

/-- `IsSequence bytes n`: the bytes spell the code point `n`. The first one says how many follow, no
shorter sequence has the same value, and the value is neither a surrogate nor above the last code point. -/
inductive IsSequence : List UInt8 → Nat → Prop where
  | one {a : UInt8} {n : Nat} : Holds 0 0x80 a n → IsSequence [a] n
  | two {a b : UInt8} {w x n : Nat} : Holds 0xC0 0x20 a w → Holds 0x80 0x40 b x →
      n = w * 0x40 + x → 0x80 ≤ n → IsSequence [a, b] n
  | three {a b c : UInt8} {w x y n : Nat} : Holds 0xE0 0x10 a w → Holds 0x80 0x40 b x →
      Holds 0x80 0x40 c y → n = (w * 0x40 + x) * 0x40 + y → 0x800 ≤ n → n.isValidChar →
      IsSequence [a, b, c] n
  | four {a b c d : UInt8} {w x y z n : Nat} : Holds 0xF0 8 a w → Holds 0x80 0x40 b x →
      Holds 0x80 0x40 c y → Holds 0x80 0x40 d z → n = ((w * 0x40 + x) * 0x40 + y) * 0x40 + z →
      0x10000 ≤ n → n.isValidChar → IsSequence [a, b, c, d] n

theorem toNat_ofNat {n : Nat} (h : n.isValidChar) : (Char.ofNat n).toNat = n := by
  unfold Char.ofNat
  rw [dif_pos h]
  rfl

theorem IsSequence.isValidChar {bytes : List UInt8} {n : Nat} (h : IsSequence bytes n) :
    n.isValidChar := by
  cases h with
  | one ha => exact .inl (by have := ha.lt; omega)
  | two ha hb hn _ => exact .inl (by have := ha.lt; have := hb.lt; omega)
  | three _ _ _ _ _ hv => exact hv
  | four _ _ _ _ _ _ hv => exact hv

theorem isSequence_encodeChar (c : Char) : IsSequence (encodeChar c) c.toNat := by
  have hvalid : c.toNat < 0xD800 ∨ 0xDFFF < c.toNat ∧ c.toNat < 0x110000 := c.valid
  have byte (n : Nat) (h : n < 0x100) : n.toUInt8.toNat = n := by simp; omega
  unfold encodeChar
  simp only
  split_ifs with h1 h2 h3
  · exact .one ⟨by rw [byte _ (by omega)]; omega, h1⟩
  · exact .two ⟨byte _ (by omega), by omega⟩ ⟨byte _ (by omega), by omega⟩ (by omega) (by omega)
  · exact .three ⟨byte _ (by omega), by omega⟩ ⟨byte _ (by omega), by omega⟩ ⟨byte _ (by omega), by omega⟩
      (by omega) (by omega) hvalid
  · exact .four ⟨byte _ (by omega), by omega⟩ ⟨byte _ (by omega), by omega⟩ ⟨byte _ (by omega), by omega⟩
      ⟨byte _ (by omega), by omega⟩ (by omega) (by omega) hvalid

/-- No code point has two sequences. -/
theorem IsSequence.eq_encodeChar {bytes : List UInt8} {n : Nat} (h : IsSequence bytes n) :
    bytes = encodeChar (Char.ofNat n) := by
  have hv := h.isValidChar
  unfold encodeChar
  simp only [toNat_ofNat hv]
  cases h with
  | one ha =>
    have := ha.lt
    rw [if_pos this, ha.eq, Nat.zero_add]
  | two ha hb hn hmin =>
    have := ha.lt
    have := hb.lt
    rw [if_neg (by omega), if_pos (by omega), ha.eq, hb.eq]
    congr 3 <;> omega
  | three ha hb hc hn hmin hv =>
    have := ha.lt
    have := hb.lt
    have := hc.lt
    rw [if_neg (by omega), if_neg (by omega), if_pos (by omega), ha.eq, hb.eq, hc.eq]
    congr 3 <;> congr 3 <;> omega
  | four ha hb hc hd hn hmin hv =>
    have := ha.lt
    have := hb.lt
    have := hc.lt
    have := hd.lt
    rw [if_neg (by omega), if_neg (by omega), if_neg (by omega), ha.eq, hb.eq, hc.eq, hd.eq]
    congr 3 <;> congr 3 <;> omega

/-! ### Reading -/

theorem isContinuation_iff {b : UInt8} :
    isContinuation b = true ↔ 0x80 ≤ b.toNat ∧ b.toNat ≤ 0xBF := by
  simp [isContinuation, UInt8.le_iff_toNat_le]

theorem mayFollow_iff {a b : UInt8} :
    mayFollow a b = true ↔ (0x80 ≤ b.toNat ∧ b.toNat ≤ 0xBF) ∧ (a.toNat = 0xE0 → 0xA0 ≤ b.toNat) ∧
      (a.toNat = 0xED → b.toNat ≤ 0x9F) ∧ (a.toNat = 0xF0 → 0x90 ≤ b.toNat) ∧
      (a.toNat = 0xF4 → b.toNat ≤ 0x8F) := by
  have hbeq (n : UInt8) : (a == n) = true ↔ a.toNat = n.toNat := by
    rw [beq_iff_eq, UInt8.toNat_inj]
  unfold mayFollow
  simp only [hbeq, UInt8.reduceToNat]
  repeat' split
  all_goals
    simp only [isContinuation, Bool.and_eq_true, decide_eq_true_eq, UInt8.le_iff_toNat_le,
      UInt8.reduceToNat]
    omega

theorem start_eq (b : UInt8) :
    start b =
      if b.toNat < 0x80 then ([.scalar (Char.ofNat b.toNat)], none)
      else if 0xC2 ≤ b.toNat ∧ b.toNat ≤ 0xDF then ([], some ⟨b, b.toNat % 0x20, 1, 1⟩)
      else if 0xE0 ≤ b.toNat ∧ b.toNat ≤ 0xEF then ([], some ⟨b, b.toNat % 0x10, 1, 2⟩)
      else if 0xF0 ≤ b.toNat ∧ b.toNat ≤ 0xF4 then ([], some ⟨b, b.toNat % 8, 1, 3⟩)
      else ([.broken 1], none) := by
  simp only [start, Bool.and_eq_true, decide_eq_true_eq, UInt8.le_iff_toNat_le,
    UInt8.lt_iff_toNat_lt, UInt8.reduceToNat]

namespace Unfinished

/-- Whether the byte continues the character. -/
def fits (u : Unfinished) (b : UInt8) : Bool :=
  if u.seen = 1 then mayFollow u.first b else isContinuation b

/-- The character with one more byte. -/
def next (u : Unfinished) (b : UInt8) : Unfinished :=
  { u with value := u.value * 0x40 + b.toNat % 0x40, seen := u.seen + 1, missing := u.missing - 1 }

end Unfinished

theorem pieces_cons (b : UInt8) (rest : List UInt8) :
    pieces (b :: rest) = (start b).1 ++ piecesFrom (start b).2 rest := rfl

theorem Unfinished.advance_eq (u : Unfinished) (b : UInt8) :
    u.advance b =
      if u.fits b then
        if u.missing = 1 then ([.scalar (Char.ofNat (u.next b).value)], none)
        else ([], some (u.next b))
      else (.broken u.seen :: (start b).1, (start b).2) := rfl

/-- What a character under way needs, to be read. -/
theorem piecesFrom_some_eq_scalar {u : Unfinished} {bytes : List UInt8} {c : Char} {more : List Piece} :
    piecesFrom (some u) bytes = .scalar c :: more ↔
      ∃ b rest, bytes = b :: rest ∧ u.fits b ∧
        if u.missing = 1 then c = Char.ofNat (u.next b).value ∧ more = pieces rest
        else piecesFrom (some (u.next b)) rest = .scalar c :: more := by
  cases bytes with
  | nil => simp [piecesFrom]
  | cons b rest =>
    rw [piecesFrom, Unfinished.advance_eq]
    constructor
    · intro h
      split_ifs at h with hfits hm
      · obtain ⟨rfl, rfl⟩ := by simpa using h
        exact ⟨b, rest, rfl, hfits, by rw [if_pos hm]; exact ⟨rfl, rfl⟩⟩
      · exact ⟨b, rest, rfl, hfits, by rw [if_neg hm]; exact h⟩
      · simp at h
    · rintro ⟨_, _, ⟨rfl, rfl⟩, hfits, h⟩
      rw [if_pos hfits]
      split_ifs at h ⊢
      · rw [h.1, h.2]
        rfl
      · exact h

theorem piecesFrom_some_ne_nil (u : Unfinished) (bytes : List UInt8) : piecesFrom (some u) bytes ≠ [] := by
  induction bytes generalizing u with
  | nil => simp [piecesFrom]
  | cons b rest ih =>
    rw [piecesFrom, Unfinished.advance_eq]
    split_ifs
    · simp
    · simpa using ih _
    · simp

theorem pieces_cons_ne_nil (b : UInt8) (rest : List UInt8) : pieces (b :: rest) ≠ [] := by
  rw [pieces_cons, start_eq]
  split_ifs <;> simp [piecesFrom_some_ne_nil]

/-- A sequence is read as its character, whatever follows it. -/
theorem pieces_append {first : List UInt8} {n : Nat} (h : IsSequence first n) (rest : List UInt8) :
    pieces (first ++ rest) = .scalar (Char.ofNat n) :: pieces rest := by
  cases h with
  | @one a n ha =>
    obtain ⟨ha, ha'⟩ := ha
    obtain rfl : a.toNat = n := by omega
    rw [List.singleton_append, pieces_cons, start_eq, if_pos ha']
    rfl
  | @two a b _ _ _ ha hb hn hmin =>
    obtain ⟨ha, ha'⟩ := ha
    obtain ⟨hb, hb'⟩ := hb
    rw [List.cons_append, pieces_cons, start_eq, if_neg (by omega), if_pos (by omega)]
    apply piecesFrom_some_eq_scalar.mpr
    refine ⟨b, rest, rfl, mayFollow_iff.mpr (by simp only; omega), ?_, rfl⟩
    simp only [Unfinished.next]
    congr 1
    omega
  | @three a b c _ _ _ _ ha hb hc hn hmin hv =>
    obtain ⟨ha, ha'⟩ := ha
    obtain ⟨hb, hb'⟩ := hb
    obtain ⟨hc, hc'⟩ := hc
    unfold Nat.isValidChar at hv
    rw [List.cons_append, pieces_cons, start_eq, if_neg (by omega), if_neg (by omega), if_pos (by omega)]
    apply piecesFrom_some_eq_scalar.mpr
    refine ⟨b, c :: rest, rfl, mayFollow_iff.mpr (by simp only; omega), ?_⟩
    apply piecesFrom_some_eq_scalar.mpr
    refine ⟨c, rest, rfl, isContinuation_iff.mpr (by omega), ?_, rfl⟩
    simp only [Unfinished.next]
    congr 1
    omega
  | @four a b c d _ _ _ _ _ ha hb hc hd hn hmin hv =>
    obtain ⟨ha, ha'⟩ := ha
    obtain ⟨hb, hb'⟩ := hb
    obtain ⟨hc, hc'⟩ := hc
    obtain ⟨hd, hd'⟩ := hd
    unfold Nat.isValidChar at hv
    rw [List.cons_append, pieces_cons, start_eq, if_neg (by omega), if_neg (by omega), if_neg (by omega),
      if_pos (by omega)]
    apply piecesFrom_some_eq_scalar.mpr
    refine ⟨b, c :: d :: rest, rfl, mayFollow_iff.mpr (by simp only; omega), ?_⟩
    apply piecesFrom_some_eq_scalar.mpr
    refine ⟨c, d :: rest, rfl, isContinuation_iff.mpr (by omega), ?_⟩
    apply piecesFrom_some_eq_scalar.mpr
    refine ⟨d, rest, rfl, isContinuation_iff.mpr (by omega), ?_, rfl⟩
    simp only [Unfinished.next]
    congr 1
    omega

/-- Only a sequence is read as a character. -/
theorem of_pieces_eq_scalar {bytes : List UInt8} {c : Char} {more : List Piece}
    (h : pieces bytes = .scalar c :: more) :
    ∃ first n rest, bytes = first ++ rest ∧ IsSequence first n ∧ c = Char.ofNat n ∧ more = pieces rest := by
  cases bytes with
  | nil => simp [pieces, piecesFrom] at h
  | cons a rest =>
    rw [pieces_cons, start_eq] at h
    split_ifs at h with h1 h2 h3 h4
    · obtain ⟨hc, rfl⟩ : Char.ofNat a.toNat = c ∧ pieces rest = more := by simpa [pieces] using h
      exact ⟨[a], a.toNat, rest, rfl, .one ⟨by omega, h1⟩, hc.symm, rfl⟩
    · obtain ⟨b, rest, rfl, hb, hc, rfl⟩ := piecesFrom_some_eq_scalar.mp h
      have hb := mayFollow_iff.mp hb
      refine ⟨[a, b], _, rest, rfl, ?_, hc, rfl⟩
      simp only [Unfinished.next]
      exact .two (w := a.toNat % 0x20) (x := b.toNat % 0x40) ⟨by omega, by omega⟩ ⟨by omega, by omega⟩
        rfl (by omega)
    · obtain ⟨b, rest, rfl, hb, h⟩ := piecesFrom_some_eq_scalar.mp h
      obtain ⟨d, rest, rfl, hd, hc, rfl⟩ := piecesFrom_some_eq_scalar.mp h
      have hb := mayFollow_iff.mp hb
      have hd := isContinuation_iff.mp hd
      refine ⟨[a, b, d], _, rest, rfl, ?_, hc, rfl⟩
      simp only [Unfinished.next] at hb ⊢
      refine .three (w := a.toNat % 0x10) (x := b.toNat % 0x40) (y := d.toNat % 0x40) ⟨by omega, by omega⟩
        ⟨by omega, by omega⟩ ⟨by omega, by omega⟩ rfl (by omega) ?_
      unfold Nat.isValidChar
      omega
    · obtain ⟨b, rest, rfl, hb, h⟩ := piecesFrom_some_eq_scalar.mp h
      obtain ⟨d, rest, rfl, hd, h⟩ := piecesFrom_some_eq_scalar.mp h
      obtain ⟨e, rest, rfl, he, hc, rfl⟩ := piecesFrom_some_eq_scalar.mp h
      have hb := mayFollow_iff.mp hb
      have hd := isContinuation_iff.mp hd
      have he := isContinuation_iff.mp he
      refine ⟨[a, b, d, e], _, rest, rfl, ?_, hc, rfl⟩
      simp only [Unfinished.next] at hb ⊢
      refine .four (w := a.toNat % 8) (x := b.toNat % 0x40) (y := d.toNat % 0x40) (z := e.toNat % 0x40)
        ⟨by omega, by omega⟩ ⟨by omega, by omega⟩ ⟨by omega, by omega⟩ ⟨by omega, by omega⟩ rfl (by omega) ?_
      unfold Nat.isValidChar
      omega
    · simp at h

/-! ### Texts -/

/-- The bytes are made of the sequences of code points. -/
def WellFormed (bytes : List UInt8) : Prop :=
  ∃ parts : List (List UInt8), bytes = parts.flatten ∧ ∀ part ∈ parts, ∃ n, IsSequence part n

theorem encode_cons (c : Char) (text : List Char) : encode (c :: text) = encodeChar c ++ encode text := rfl

theorem pieces_encodeChar_append (c : Char) (rest : List UInt8) :
    pieces (encodeChar c ++ rest) = .scalar c :: pieces rest := by
  rw [pieces_append (isSequence_encodeChar c), Char.ofNat_toNat]

theorem decode_eq_ok_iff {bytes : List UInt8} {text : List Char} :
    decode bytes = .ok text ↔ bytes = encode text := by
  rw [decode_eq_ok_iff_pieces]
  induction text generalizing bytes with
  | nil =>
    constructor
    · intro h
      cases bytes with
      | nil => rfl
      | cons b rest => exact absurd h (pieces_cons_ne_nil b rest)
    · rintro rfl
      rfl
  | cons c text ih =>
    rw [List.map_cons, encode_cons]
    constructor
    · intro h
      obtain ⟨first, n, rest, rfl, hfirst, rfl, hrest⟩ := of_pieces_eq_scalar h
      rw [hfirst.eq_encodeChar, ih.mp hrest.symm]
    · rintro rfl
      rw [pieces_encodeChar_append, ih.mpr rfl]

theorem decode_encode (text : List Char) : decode (encode text) = .ok text :=
  decode_eq_ok_iff.mpr rfl

theorem wellFormed_iff {bytes : List UInt8} : WellFormed bytes ↔ ∃ text, bytes = encode text := by
  constructor
  · rintro ⟨parts, rfl, hparts⟩
    induction parts with
    | nil => exact ⟨[], rfl⟩
    | cons part parts ih =>
      obtain ⟨⟨n, hn⟩, hparts⟩ := List.forall_mem_cons.mp hparts
      obtain ⟨text, htext⟩ := ih hparts
      exact ⟨Char.ofNat n :: text, by rw [List.flatten_cons, htext, encode_cons, hn.eq_encodeChar]⟩
  · rintro ⟨text, rfl⟩
    refine ⟨text.map encodeChar, rfl, ?_⟩
    simp only [List.mem_map, forall_exists_index, and_imp, forall_apply_eq_imp_iff₂]
    exact fun c _ => ⟨c.toNat, isSequence_encodeChar c⟩

/-- Encoding is that of the standard library. -/
theorem encodeChar_eq (c : Char) : encodeChar c = String.utf8EncodeChar c := by
  have hlt : c.toNat < 0x110000 := by
    have hvalid : c.toNat < 0xD800 ∨ 0xDFFF < c.toNat ∧ c.toNat < 0x110000 := c.valid
    omega
  unfold encodeChar String.utf8EncodeChar
  simp only [← Char.toNat_val]
  rw [← Char.toNat_val] at hlt
  have byte {m n : Nat} (h : m = n) : m.toUInt8 = UInt8.ofNat n := congrArg UInt8.ofNat h
  split_ifs <;> try omega
  · rfl
  all_goals simp only [List.cons.injEq, and_true]
  · exact ⟨byte (by omega), byte (by omega)⟩
  · exact ⟨byte (by omega), byte (by omega), byte (by omega)⟩
  · exact ⟨byte (by omega), byte (by omega), byte (by omega), byte (by omega)⟩

theorem encodeString_eq (s : String) : encodeString s = s.toUTF8.data.toList := by
  rw [String.toUTF8, ← String.utf8Encode_toList, List.utf8Encode, List.data_toByteArray]
  exact congrArg s.toList.flatMap (funext encodeChar_eq)

end KeyApproval.Text.Utf8
