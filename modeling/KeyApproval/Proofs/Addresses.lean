import KeyApproval.Proofs.DomainNames
import KeyApproval.Url.Address
import Mathlib.Data.List.Induction

/-!
# Addresses read back

The text of an address leads back to the address. An IPv4 address is written with all four numbers. In the
text of an IPv6 address the one pair of colons, if there is any, stands for zeros, whose count is known from
the number of the other pieces.
-/

namespace KeyApproval.Text

theorem toList_intercalate_singleton (separator : Char) (parts : List String) :
    ((String.singleton separator).intercalate parts).toList = join separator (parts.map String.toList) := by
  induction parts with
  | nil => simp [join]
  | cons part parts ih =>
    cases parts with
    | nil => simp [join]
    | cons next more =>
      rw [String.intercalate_cons_cons, String.toList_append, String.toList_append, ih]
      simp [join]

end KeyApproval.Text

namespace KeyApproval.Url

open Text

/-! ### IPv4 -/

def octets (a : UInt32) : List Nat :=
  [a.toNat / 0x1000000, a.toNat / 0x10000 % 256, a.toNat / 0x100 % 256, a.toNat % 256]

theorem octets_lt (a : UInt32) : ∀ n ∈ octets a, n < 256 := by
  have ha : a.toNat < 4294967296 := a.toNat_lt
  simp only [octets, List.forall_mem_cons, List.not_mem_nil, false_implies, implies_true, and_true]
  omega

theorem toList_writeIpv4 (a : UInt32) :
    (writeIpv4 a).toList = Text.join '.' ((octets a).map (Nat.toDigits 10)) := by
  have hdigits (n : Nat) : (toString n).toList = Nat.toDigits 10 n := by
    rw [Nat.toString_eq_repr, Nat.toList_repr]
  calc (writeIpv4 a).toList = Text.join '.' (((octets a).map toString).map String.toList) :=
        toList_intercalate_singleton '.' _
    _ = Text.join '.' ((octets a).map (Nat.toDigits 10)) := by
      rw [List.map_map]
      exact congrArg (Text.join '.') (List.map_congr_left fun n _ => hdigits n)

theorem isDigit_of_mem_octets {a : UInt32} :
    ∀ part ∈ (octets a).map (Nat.toDigits 10), part ≠ [] ∧ ∀ c ∈ part, c.isDigit = true := by
  intro part hpart
  obtain ⟨n, -, rfl⟩ := List.mem_map.mp hpart
  exact ⟨Nat.toDigits_ne_nil, fun c hc => Nat.isDigit_of_mem_toDigits (by decide) (by decide) hc⟩

theorem split_writeIpv4 (a : UInt32) :
    split '.' (writeIpv4 a).toList = (octets a).map (Nat.toDigits 10) := by
  rw [toList_writeIpv4]
  refine split_join (by simp [octets]) fun part hpart hdot => ?_
  have := (isDigit_of_mem_octets part hpart).2 '.' hdot
  contradiction

theorem readIpv4Number?_toDigits {n : Nat} (h : n < 256) :
    readIpv4Number? (Nat.toDigits 10 n) = some n := by
  have hall : (List.range 256).all (fun n => readIpv4Number? (Nat.toDigits 10 n) == some n) = true := by
    decide +kernel
  exact eq_of_beq (List.all_eq_true.mp hall n (List.mem_range.mpr h))

theorem ipv4OfNumbers?_octets (a : UInt32) : ipv4OfNumbers? (octets a) = some a := by
  have ha : a.toNat < 4294967296 := a.toNat_lt
  have hpower : Nat.pow 256 1 = 256 := rfl
  have hbig : ¬(3 < 3 ∨ Nat.pow 256 1 ≤ a.toNat % 256 ∨
      ([a.toNat / 0x100 % 256, a.toNat / 0x10000 % 256, a.toNat / 0x1000000].any (255 < ·)) = true) := by
    simp only [List.any_cons, List.any_nil, Bool.or_eq_true, decide_eq_true_eq, Bool.false_eq_true,
      or_false, hpower]
    omega
  have hvalue : digitsValue 256 [a.toNat / 0x1000000, a.toNat / 0x10000 % 256, a.toNat / 0x100 % 256] *
      Nat.pow 256 1 + a.toNat % 256 = a.toNat := by
    simp only [digitsValue, List.foldl_cons, List.foldl_nil, hpower]
    omega
  calc ipv4OfNumbers? (octets a)
      = some (digitsValue 256 [a.toNat / 0x1000000, a.toNat / 0x10000 % 256, a.toNat / 0x100 % 256] *
          Nat.pow 256 1 + a.toNat % 256).toUInt32 := if_neg hbig
    _ = some a := by rw [hvalue, Nat.toUInt32, UInt32.ofNat_toNat]

theorem readIpv4?_writeIpv4 (a : UInt32) : readIpv4? (writeIpv4 a).toList = some a := by
  have hlast : (((octets a).map (Nat.toDigits 10)).getLast? == some []) = false := by
    simp [octets, Nat.toDigits_ne_nil]
  have hread : (octets a).mapM (readIpv4Number? ∘ Nat.toDigits 10) = some (octets a) :=
    mapM_eq_self fun n hn => readIpv4Number?_toDigits (octets_lt a n hn)
  rw [readIpv4?, split_writeIpv4]
  simp only [hlast, Bool.false_eq_true, if_false]
  rw [List.mapM_map, hread, Option.bind_some, ipv4OfNumbers?_octets]

theorem endsInNumber_writeIpv4 (a : UInt32) : endsInNumber (writeIpv4 a).toList = true := by
  have hlast := isDigit_of_mem_octets (a := a) (Nat.toDigits 10 (a.toNat % 256)) (by simp [octets])
  obtain ⟨c, rest, hcons⟩ := List.exists_cons_of_ne_nil hlast.1
  rw [endsInNumber, split_writeIpv4]
  simp only [octets, List.map_cons, List.map_nil, List.reverse_cons, List.reverse_nil, List.nil_append,
    List.cons_append, hcons]
  rw [hcons] at hlast
  simp [List.all_eq_true.mpr hlast.2]

/-! ### The pieces of an IPv6 address -/

theorem hexValue?_toLower_digitChar {d : Nat} (h : d < 16) : hexValue? d.digitChar.toLower = some d := by
  revert d
  decide

theorem isPlain_toLower_digitChar {d : Nat} (h : d < 16) : isPlain d.digitChar.toLower = true := by
  revert d
  decide

/-- The digits of a number in base sixteen lead back to the number. -/
theorem ofNat_spec (n : Nat) :
    (∀ c ∈ Hex.ofNat n, isPlain c = true) ∧
      ∃ digits, (Hex.ofNat n).mapM hexValue? = some digits ∧ digitsValue 16 digits = n := by
  induction n using Nat.strongRecOn with
  | ind n ih =>
    rw [Hex.ofNat, Nat.toDigits_eq_if (by decide)]
    split
    next hlow =>
      refine ⟨by simpa using isPlain_toLower_digitChar hlow, [n], ?_, by simp [digitsValue]⟩
      simp [hexValue?_toLower_digitChar hlow]
    next hhigh =>
      have hdigit := Nat.mod_lt n (show 16 > 0 by decide)
      obtain ⟨hplain, digits, hdigits, hvalue⟩ := ih (n / 16) (by omega)
      rw [Hex.ofNat] at hplain hdigits
      rw [List.map_append, List.map_singleton]
      refine ⟨fun c hc => ?_, digits ++ [n % 16], ?_, ?_⟩
      · cases List.mem_append.mp hc with
        | inl hfront => exact hplain c hfront
        | inr hlast => exact List.mem_singleton.mp hlast ▸ isPlain_toLower_digitChar hdigit
      · simp [List.mapM_append, hdigits, hexValue?_toLower_digitChar hdigit]
      · rw [digitsValue] at hvalue ⊢
        rw [List.foldl_append, hvalue]
        exact Nat.div_add_mod' n 16

theorem isPlain_ofNat (n : Nat) : IsPlain (Hex.ofNat n) :=
  ⟨by simp [Hex.ofNat, Nat.toDigits_ne_nil], (ofNat_spec n).1⟩

theorem readPiece?_ofNat {n : Nat} (h : n < 65536) : readPiece? (Hex.ofNat n) = some n := by
  obtain ⟨-, digits, hdigits, hvalue⟩ := ofNat_spec n
  have hlength : (Hex.ofNat n).length ≤ 4 := by
    rw [Hex.ofNat, List.length_map]
    exact (Nat.length_toDigits_le_iff (by decide) (by decide)).mpr h
  have hempty : (Hex.ofNat n).isEmpty = false := by
    simpa using (isPlain_ofNat n).1
  rw [readPiece?, hempty, hdigits, Option.map_some, hvalue]
  simp [Nat.not_lt.mpr hlength]

theorem readPieces?_map_ofNat {pieces : List Nat} (h : ∀ n ∈ pieces, n < 65536) :
    readPieces? (pieces.map Hex.ofNat) = some pieces := by
  induction pieces with
  | nil => rfl
  | cons n pieces ih =>
    have hn := readPiece?_ofNat (h n List.mem_cons_self)
    cases pieces with
    | nil =>
      have hdot : (Hex.ofNat n).contains '.' = false := by
        rw [← Bool.not_eq_true, List.contains_iff_mem]
        exact fun hmem => ne_of_isPlain ((isPlain_ofNat n).2 '.' hmem) (by decide) rfl
      simp only [List.map_cons, List.map_nil, readPieces?, hdot, hn]
      rfl
    | cons next more =>
      have hrest := ih fun m hm => h m (List.mem_cons_of_mem n hm)
      simp only [List.map_cons] at hrest ⊢
      rw [readPieces?, hn, hrest]
      · rfl
      · simp

theorem colon_notMem_ofNat (pieces : List Nat) :
    ∀ part ∈ pieces.map Hex.ofNat, part ≠ [] ∧ ':' ∉ part := by
  intro part hpart
  obtain ⟨n, -, rfl⟩ := List.mem_map.mp hpart
  exact ⟨(isPlain_ofNat n).1, fun hmem => ne_of_isPlain ((isPlain_ofNat n).2 ':' hmem) (by decide) rfl⟩

theorem toList_writePieces (pieces : List Nat) :
    (writePieces pieces).toList = Text.join ':' (pieces.map Hex.ofNat) := by
  calc (writePieces pieces).toList
      = Text.join ':' ((pieces.map fun n => String.ofList (Hex.ofNat n)).map String.toList) :=
        toList_intercalate_singleton ':' _
    _ = Text.join ':' (pieces.map Hex.ofNat) := by
      rw [List.map_map]
      exact congrArg (Text.join ':') (List.map_congr_left fun n _ => String.toList_ofList)

theorem readSide?_join {pieces : List Nat} (h : ∀ n ∈ pieces, n < 65536) :
    readSide? (Text.join ':' (pieces.map Hex.ofNat)) = some pieces := by
  cases pieces with
  | nil => rfl
  | cons n pieces =>
    have hparts := colon_notMem_ofNat (n :: pieces)
    have hempty : (Text.join ':' ((n :: pieces).map Hex.ofNat)).isEmpty = false := by
      obtain ⟨c, rest, hcons⟩ := List.exists_cons_of_ne_nil (isPlain_ofNat n).1
      cases pieces <;> simp [Text.join, hcons]
    rw [readSide?, hempty, split_join (by simp) fun part hpart => (hparts part hpart).2]
    exact readPieces?_map_ofNat h

/-! ### The gap -/

theorem splitGap_cons {c : Char} (h : c ≠ ':') (s : List Char) :
    splitGap (c :: s) = (splitGap s).map fun p => (c :: p.1, p.2) := by
  cases s with
  | nil => rfl
  | cons d s => simp [splitGap, h]

theorem splitGap_append {part : List Char} (h : ':' ∉ part) (s : List Char) :
    splitGap (part ++ s) = (splitGap s).map fun p => (part ++ p.1, p.2) := by
  induction part with
  | nil => simp
  | cons c part ih =>
    rw [List.cons_append, splitGap_cons fun heq => h (heq ▸ List.mem_cons_self),
      ih fun hmem => h (List.mem_cons_of_mem c hmem), Option.map_map]
    rfl

theorem exists_join_eq_cons (separator : Char) {part : List Char} (parts : List (List Char))
    (h : part ≠ []) :
    ∃ c rest, Text.join separator (part :: parts) = c :: rest ∧ c ∈ part := by
  obtain ⟨c, tail, rfl⟩ := List.exists_cons_of_ne_nil h
  cases parts with
  | nil => exact ⟨c, tail, rfl, List.mem_cons_self⟩
  | cons next more => exact ⟨c, _, rfl, List.mem_cons_self⟩

/-- Pieces that are joined have no gap between them. -/
theorem splitGap_join {parts : List (List Char)} (h : ∀ part ∈ parts, part ≠ [] ∧ ':' ∉ part)
    (s : List Char) :
    splitGap (Text.join ':' parts ++ s) = (splitGap s).map fun p => (Text.join ':' parts ++ p.1, p.2) := by
  induction parts with
  | nil => simp [Text.join]
  | cons part parts ih =>
    have hpart := h part List.mem_cons_self
    have hparts := fun p hp => h p (List.mem_cons_of_mem part hp)
    cases parts with
    | nil => exact splitGap_append hpart.2 s
    | cons next more =>
      obtain ⟨c, rest, hcons, hc⟩ := exists_join_eq_cons ':' more
        (hparts next List.mem_cons_self).1
      have hcolon : c ≠ ':' := fun heq => (hparts next List.mem_cons_self).2 (heq ▸ hc)
      have hstep : splitGap (':' :: (Text.join ':' (next :: more) ++ s)) =
          (splitGap (Text.join ':' (next :: more) ++ s)).map fun p => (':' :: p.1, p.2) := by
        rw [hcons]
        simp [splitGap, hcolon]
      calc splitGap (Text.join ':' (part :: next :: more) ++ s)
          = splitGap (part ++ ':' :: (Text.join ':' (next :: more) ++ s)) := by simp [Text.join]
        _ = (splitGap s).map fun p => (Text.join ':' (part :: next :: more) ++ p.1, p.2) := by
          rw [splitGap_append hpart.2, hstep, ih hparts, Option.map_map, Option.map_map]
          simp [Text.join, Function.comp_def]

/-- The longer of the longest run so far and the next one, if it is one of two zeros at least. -/
def longerRun (longest : Option (Nat × Nat)) (run : Nat × Nat) : Option (Nat × Nat) :=
  match longest with
  | none => if 2 ≤ run.2 then some run else none
  | some best => if best.2 < run.2 then some run else some best

theorem longestZeroRun_eq (pieces : List Nat) :
    longestZeroRun pieces =
      ((List.range pieces.length).map fun i => (i, zeroRun (pieces.drop i))).foldl longerRun none := by
  unfold longestZeroRun
  dsimp only
  congr 1
  funext longest run
  cases longest <;> rfl

/-- That the run between a place and a later one holds zeros only. -/
def IsZeroRun (pieces : List Nat) (run : Nat × Nat) : Prop :=
  2 ≤ run.2 ∧ run.2 = zeroRun (pieces.drop run.1)

theorem isZeroRun_longerRun {pieces : List Nat} {longest : Option (Nat × Nat)} {run r : Nat × Nat}
    (hlongest : ∀ best, longest = some best → IsZeroRun pieces best)
    (hrun : run.2 = zeroRun (pieces.drop run.1)) (h : longerRun longest run = some r) :
    IsZeroRun pieces r := by
  cases longest with
  | none =>
    rw [longerRun] at h
    split at h
    next hlong =>
      cases h
      exact ⟨hlong, hrun⟩
    next => contradiction
  | some best =>
    rw [longerRun] at h
    have hbest := hlongest best rfl
    split at h
    next hlonger =>
      cases h
      exact ⟨Nat.le_trans hbest.1 (Nat.le_of_lt hlonger), hrun⟩
    next =>
      cases h
      exact hbest

theorem isZeroRun_longestZeroRun {pieces : List Nat} {run : Nat × Nat}
    (h : longestZeroRun pieces = some run) : IsZeroRun pieces run := by
  have hfold (runs : List (Nat × Nat)) (longest : Option (Nat × Nat))
      (hlongest : ∀ best, longest = some best → IsZeroRun pieces best)
      (hruns : ∀ r ∈ runs, r.2 = zeroRun (pieces.drop r.1))
      (hrun : runs.foldl longerRun longest = some run) : IsZeroRun pieces run := by
    induction runs generalizing longest with
    | nil => exact hlongest run hrun
    | cons r runs ih =>
      exact ih _ (fun best hbest => isZeroRun_longerRun hlongest (hruns r List.mem_cons_self) hbest)
        (fun s hs => hruns s (List.mem_cons_of_mem r hs)) hrun
  rw [longestZeroRun_eq] at h
  refine hfold _ none (by simp) (fun r hr => ?_) h
  obtain ⟨i, -, rfl⟩ := List.mem_map.mp hr
  rfl

/-- A run of zeros between the pieces before and after it. -/
theorem eq_append_of_isZeroRun {pieces : List Nat} {run : Nat × Nat} (h : IsZeroRun pieces run) :
    pieces = pieces.take run.1 ++ List.replicate run.2 0 ++ pieces.drop (run.1 + run.2) := by
  have hzeros : (pieces.drop run.1).takeWhile (· == 0) = List.replicate run.2 0 := by
    rw [List.eq_replicate_iff]
    exact ⟨h.2.symm, fun n hn => by simpa using List.mem_takeWhile_imp hn⟩
  have hrest : pieces.drop run.1 = List.replicate run.2 0 ++ pieces.drop (run.1 + run.2) := by
    have hprefix := List.prefix_iff_eq_append.mp
      (List.takeWhile_prefix (· == 0) (l := pieces.drop run.1))
    rw [hzeros, List.length_replicate, List.drop_drop] at hprefix
    exact hprefix.symm
  calc pieces = pieces.take run.1 ++ pieces.drop run.1 := (List.take_append_drop _ _).symm
    _ = _ := by rw [hrest, List.append_assoc]

/-! ### Whole addresses -/

/-- Eight pieces of sixteen bits each. -/
def IsIpv6 (pieces : List Nat) : Prop := pieces.length = 8 ∧ ∀ n ∈ pieces, n < 65536

/-- An address is read back from its text. -/
theorem readIpv6?_writeIpv6 {pieces : List Nat} (h : IsIpv6 pieces) :
    readIpv6? (writeIpv6 pieces).toList = some pieces := by
  cases hrun : longestZeroRun pieces with
  | none =>
    have hgap : splitGap (Text.join ':' (pieces.map Hex.ofNat)) = none := by
      simpa [splitGap] using splitGap_join (colon_notMem_ofNat pieces) []
    rw [writeIpv6, hrun]
    simp only [toList_writePieces, readIpv6?, hgap, readSide?_join h.2]
    simp [h.1]
  | some run =>
    obtain ⟨start, length⟩ := run
    have hzeros := isZeroRun_longestZeroRun hrun
    have hpieces := eq_append_of_isZeroRun hzeros
    have hlength := congrArg List.length hpieces
    dsimp only at hpieces hlength
    rw [h.1, List.length_append, List.length_append, List.length_replicate] at hlength
    have hfront : ∀ n ∈ pieces.take start, n < 65536 := fun n hn => h.2 n (List.mem_of_mem_take hn)
    have hback : ∀ n ∈ pieces.drop (start + length), n < 65536 := fun n hn =>
      h.2 n (List.mem_of_mem_drop hn)
    have htext : (writeIpv6 pieces).toList =
        Text.join ':' ((pieces.take start).map Hex.ofNat) ++
          ':' :: ':' :: Text.join ':' ((pieces.drop (start + length)).map Hex.ofNat) := by
      rw [writeIpv6, hrun]
      simp [toList_writePieces]
    have hgap := splitGap_join (colon_notMem_ofNat (pieces.take start))
      (':' :: ':' :: Text.join ':' ((pieces.drop (start + length)).map Hex.ofNat))
    have hdot : (Text.join ':' ((pieces.take start).map Hex.ofNat)).contains '.' = false := by
      rw [← Bool.not_eq_true, List.contains_iff_mem]
      intro hmem
      rcases mem_join hmem with hcolon | ⟨part, hpart, hc⟩
      · contradiction
      · obtain ⟨n, -, rfl⟩ := List.mem_map.mp hpart
        exact ne_of_isPlain ((isPlain_ofNat n).2 '.' hc) (by decide) rfl
    have hlong := hzeros.1
    dsimp only at hlong
    have hgap' : splitGap (':' :: ':' :: Text.join ':' ((pieces.drop (start + length)).map Hex.ofNat)) =
        some ([], Text.join ':' ((pieces.drop (start + length)).map Hex.ofNat)) := by
      simp [splitGap]
    have hfits : ¬7 < (pieces.take start).length + (pieces.drop (start + length)).length := by omega
    have hcount : 8 - (pieces.take start).length - (pieces.drop (start + length)).length = length := by omega
    rw [readIpv6?, htext, hgap, hgap']
    simp only [Option.map_some, List.append_nil, hdot, readSide?_join hfront, readSide?_join hback,
      Bool.false_eq_true, if_false, Option.bind_eq_bind, Option.bind_some, if_neg hfits, hcount]
    rw [← hpieces]

theorem digitsValue_lt {base : Nat} {digits : List Nat} (h : ∀ d ∈ digits, d < base) :
    digitsValue base digits < base ^ digits.length := by
  induction digits using List.reverseRecOn with
  | nil => simp [digitsValue]
  | append_singleton digits d ih =>
    have hd := h d (by simp)
    have hdigits := ih fun e he => h e (List.mem_append_left [d] he)
    rw [digitsValue, List.foldl_append, List.length_append, List.length_singleton, Nat.pow_succ]
    rw [digitsValue] at hdigits
    calc digits.foldl (fun n d => n * base + d) 0 * base + d
        < digits.foldl (fun n d => n * base + d) 0 * base + base := Nat.add_lt_add_left hd _
      _ = (digits.foldl (fun n d => n * base + d) 0 + 1) * base := (Nat.succ_mul _ _).symm
      _ ≤ base ^ digits.length * base := Nat.mul_le_mul_right base hdigits

theorem hexValue?_lt {c : Char} {d : Nat} (h : hexValue? c = some d) : d < 16 := by
  unfold hexValue? at h
  simp only [Char.isDigit, Bool.and_eq_true, decide_eq_true_eq, ge_iff_le, Char.le_def,
    UInt32.le_iff_toNat_le] at h
  change (if 48 ≤ c.toNat ∧ c.toNat ≤ 57 then some (c.toNat - 48)
    else if 97 ≤ c.toNat ∧ c.toNat ≤ 102 then some (c.toNat - 97 + 10)
    else if 65 ≤ c.toNat ∧ c.toNat ≤ 70 then some (c.toNat - 65 + 10) else none) = some d at h
  repeat' split at h
  all_goals
    cases h
    try omega

theorem readPiece?_lt {s : List Char} {n : Nat} (h : readPiece? s = some n) : n < 65536 := by
  rw [readPiece?] at h
  split at h
  · contradiction
  next hlength =>
    obtain ⟨digits, hdigits, rfl⟩ := Option.map_eq_some_iff.mp h
    have hvalue : digitsValue 16 digits < 16 ^ digits.length := digitsValue_lt fun d hd => by
      obtain ⟨c, -, hc⟩ := mem_of_mapM hdigits d hd
      exact hexValue?_lt hc
    have hshort : digits.length ≤ 4 := by
      rw [Bool.or_eq_true, decide_eq_true_eq, not_or] at hlength
      rw [length_of_mapM hdigits]
      exact Nat.not_lt.mp hlength.2
    exact Nat.lt_of_lt_of_le hvalue (Nat.pow_le_pow_right (by decide) hshort)

theorem readPlainByte?_lt {s : List Char} {n : Nat} (h : readPlainByte? s = some n) : n < 256 := by
  rw [readPlainByte?] at h
  split at h
  · contradiction
  · simpa using (Option.filter_eq_some_iff.mp h).2

theorem readDotted?_lt {s : List Char} {pieces : List Nat} (h : readDotted? s = some pieces) :
    ∀ n ∈ pieces, n < 65536 := by
  unfold readDotted? at h
  split at h
  next a b c d hbytes =>
    cases h
    have hbyte : ∀ n ∈ [a, b, c, d], n < 256 := fun n hn => by
      obtain ⟨part, -, hpart⟩ := mem_of_mapM hbytes n hn
      exact readPlainByte?_lt hpart
    simp only [List.forall_mem_cons, List.not_mem_nil, false_implies, implies_true, and_true] at hbyte ⊢
    omega
  next => contradiction

theorem readPieces?_lt {parts : List (List Char)} {pieces : List Nat} (h : readPieces? parts = some pieces) :
    ∀ n ∈ pieces, n < 65536 := by
  induction parts generalizing pieces with
  | nil =>
    cases h
    simp
  | cons part parts ih =>
    cases parts with
    | nil =>
      rw [readPieces?] at h
      split at h
      · exact readDotted?_lt h
      · obtain ⟨n, hn, rfl⟩ := Option.map_eq_some_iff.mp h
        exact List.forall_mem_singleton.mpr (readPiece?_lt hn)
    | cons next more =>
      rw [readPieces?] at h
      · simp only [Option.bind_eq_bind, Option.bind_eq_some_iff, Option.pure_def,
          Option.some.injEq] at h
        obtain ⟨first, hfirst, others, hothers, rfl⟩ := h
        exact List.forall_mem_cons.mpr ⟨readPiece?_lt hfirst, ih hothers⟩
      · simp

theorem readSide?_lt {s : List Char} {pieces : List Nat} (h : readSide? s = some pieces) :
    ∀ n ∈ pieces, n < 65536 := by
  rw [readSide?] at h
  split at h
  · cases h
    simp
  · exact readPieces?_lt h

/-- Whatever is read as an address is one. -/
theorem isIpv6_of_readIpv6? {s : List Char} {pieces : List Nat} (h : readIpv6? s = some pieces) :
    IsIpv6 pieces := by
  unfold readIpv6? at h
  split at h
  · obtain ⟨hside, hlength⟩ := Option.filter_eq_some_iff.mp h
    exact ⟨eq_of_beq hlength, readSide?_lt hside⟩
  next before after hgap =>
    split at h
    · contradiction
    · simp only [Option.bind_eq_bind, Option.bind_eq_some_iff] at h
      obtain ⟨front, hfront, back, hback, h⟩ := h
      split at h
      · contradiction
      next hfits =>
        cases h
        refine ⟨?_, fun n hn => ?_⟩
        · simp only [List.length_append, List.length_replicate]
          omega
        · rcases List.mem_append.mp hn with hn | hn
          · rcases List.mem_append.mp hn with hn | hn
            · exact readSide?_lt hfront n hn
            · rw [List.eq_of_mem_replicate hn]
              decide
          · exact readSide?_lt hback n hn

end KeyApproval.Url
