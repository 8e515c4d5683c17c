import KeyApproval.Domain.Name
import KeyApproval.Text.NormalForm
import Mathlib.Data.List.Forall2

/-!
# What the character tables hold

The theory of names rests on facts about all entries of the tables, which are found by computation. The
lines of a table are spelled out as characters for that, and the decompositions, which are looked up
many times, are put into a search tree.
-/

namespace KeyApproval.Text

/-- The characters of each line. -/
abbrev Spelled : List String → List (List Char) → Prop :=
  List.Forall₂ fun line chars => line = String.ofList chars

theorem tableEntries_of_spelled {lines : List String} {chars : List (List Char)}
    (h : Spelled lines chars) : tableEntries lines = chars.flatMap lineEntries := by
  induction h with
  | nil => rfl
  | cons hline _ ih =>
    rw [tableEntries] at ih ⊢
    rw [List.flatMap_cons, List.flatMap_cons, ih, hline, String.toList_ofList]

/-- What is true of the entries as they are spelled is true of the table. -/
theorem holds_of_spelled {β : Type} (P : List β → Prop) {f : List (List Char) → β}
    {lines : List String} {chars : List (List Char)} (h : Spelled lines chars)
    (hp : P ((chars.flatMap lineEntries).map f)) : P ((tableEntries lines).map f) := by
  rw [tableEntries_of_spelled h]
  exact hp

/-! ### Search trees -/

/-- A search tree of codes and their images. -/
inductive Index where
  | leaf
  | node (left : Index) (code : Nat) (image : List Nat) (right : Index)

namespace Index

def toList : Index → List (Nat × List Nat)
  | leaf => []
  | node left code image right => left.toList ++ (code, image) :: right.toList

/-- All codes lie between the bounds, in order. -/
def isOrdered (low high : Nat) : Index → Bool
  | leaf => true
  | node left code _ right =>
    left.isOrdered low code && low ≤ code && code < high && right.isOrdered (code + 1) high

def find? (n : Nat) : Index → Option (List Nat)
  | leaf => none
  | node left code image right =>
    if n < code then left.find? n else if code < n then right.find? n else some image

/-- Whether all entries between two codes have the property. -/
def allWithin (low high : Nat) (p : Nat → List Nat → Bool) : Index → Bool
  | leaf => true
  | node left code image right =>
    (code ≤ low || left.allWithin low high p) && (code < low || high < code || p code image) &&
      (high ≤ code || right.allWithin low high p)

/-- A tree of the given depth from the front of a list, and the rest of the list. -/
def build : (depth : Nat) → List (Nat × List Nat) → Index × List (Nat × List Nat)
  | 0, l => (leaf, l)
  | depth + 1, l =>
    match build depth l with
    | (left, []) => (left, [])
    | (left, (code, image) :: rest) =>
      match build depth rest with
      | (right, rest) => (node left code image right, rest)

theorem toList_build (depth : Nat) (l : List (Nat × List Nat)) :
    (build depth l).1.toList ++ (build depth l).2 = l := by
  induction depth generalizing l with
  | zero => rfl
  | succ depth ih =>
    have hleft := ih l
    rw [build]
    split
    next left heq =>
      rw [heq] at hleft
      exact hleft
    next left code image rest heq =>
      rw [heq] at hleft
      have hright := ih rest
      dsimp only at hleft hright ⊢
      rw [toList, List.append_assoc, List.cons_append, hright, hleft]

variable {t : Index} {low high : Nat}

theorem bounds_of_isOrdered (h : t.isOrdered low high = true) :
    ∀ e ∈ t.toList, low ≤ e.1 ∧ e.1 < high := by
  induction t generalizing low high with
  | leaf => simp [toList]
  | node left code image right ihl ihr =>
    simp only [isOrdered, Bool.and_eq_true, decide_eq_true_eq] at h
    obtain ⟨⟨⟨hleft, hlow⟩, hhigh⟩, hright⟩ := h
    intro e he
    rw [toList, List.mem_append, List.mem_cons] at he
    rcases he with he | rfl | he
    · have := ihl hleft e he
      omega
    · exact ⟨hlow, hhigh⟩
    · have := ihr hright e he
      omega

/-- The tree finds what a search of the list from its front finds. -/
theorem find?_eq (h : t.isOrdered low high = true) (n : Nat) :
    t.find? n = (t.toList.find? (·.1 == n)).map (·.2) := by
  induction t generalizing low high with
  | leaf => rfl
  | node left code image right ihl ihr =>
    simp only [isOrdered, Bool.and_eq_true, decide_eq_true_eq] at h
    obtain ⟨⟨⟨hleft, hlow⟩, hhigh⟩, hright⟩ := h
    have hbelow : code ≤ n → left.toList.find? (·.1 == n) = none := by
      intro hle
      refine List.find?_eq_none.mpr fun e he => ?_
      have := bounds_of_isOrdered hleft e he
      simp only [beq_iff_eq]
      omega
    have habove : n ≤ code → right.toList.find? (·.1 == n) = none := by
      intro hle
      refine List.find?_eq_none.mpr fun e he => ?_
      have := bounds_of_isOrdered hright e he
      simp only [beq_iff_eq]
      omega
    rw [find?, toList, List.find?_append, List.find?_cons]
    rcases Nat.lt_trichotomy n code with hlt | rfl | hgt
    · have hne : (code == n) = false := beq_false_of_ne (by omega)
      rw [if_pos hlt, ihl hleft, hne, habove (by omega)]
      simp
    · rw [if_neg (Nat.lt_irrefl _), if_neg (Nat.lt_irrefl _), hbelow (Nat.le_refl _)]
      simp
    · have hne : (code == n) = false := beq_false_of_ne (by omega)
      rw [if_neg (by omega), if_pos hgt, ihr hright, hne, hbelow (by omega)]
      simp

theorem of_allWithin {p : Nat → List Nat → Bool} {first last : Nat}
    (h : t.isOrdered low high = true) (hall : t.allWithin first last p = true) :
    ∀ e ∈ t.toList, first ≤ e.1 → e.1 ≤ last → p e.1 e.2 = true := by
  induction t generalizing low high with
  | leaf => simp [toList]
  | node left code image right ihl ihr =>
    simp only [isOrdered, Bool.and_eq_true, decide_eq_true_eq] at h
    obtain ⟨⟨⟨hleft, hlow⟩, hhigh⟩, hright⟩ := h
    simp only [allWithin, Bool.and_eq_true, Bool.or_eq_true, decide_eq_true_eq] at hall
    obtain ⟨⟨hallLeft, hhere⟩, hallRight⟩ := hall
    intro e he hfirst hlast
    rw [toList, List.mem_append, List.mem_cons] at he
    rcases he with he | rfl | he
    · have := bounds_of_isOrdered hleft e he
      exact ihl hleft (hallLeft.resolve_left (by omega)) e he hfirst hlast
    · exact hhere.resolve_left (by dsimp only at hfirst hlast; omega)
    · have := bounds_of_isOrdered hright e he
      exact ihr hright (hallRight.resolve_left (by omega)) e he hfirst hlast

/-- The tree of a whole list, if it is in order and not too long. -/
def Holds (l : List (Nat × List Nat)) : Prop :=
  (build 12 l).2 = [] ∧ (build 12 l).1.isOrdered 0 0x110000 = true

instance (l : List (Nat × List Nat)) : Decidable (Holds l) := inferInstanceAs (Decidable (_ ∧ _))

theorem Holds.toList_eq {l : List (Nat × List Nat)} (h : Holds l) : (build 12 l).1.toList = l := by
  have hbuild := toList_build 12 l
  rwa [h.1, List.append_nil] at hbuild

end Index

/-! ### Canonical equivalence -/

namespace NormalForm

/-- Decomposition by means of a tree. -/
def decomposeIn (t : Index) (n : Nat) : List Nat :=
  if n < 0xC0 then [n]
  else if isSyllable n then decomposeSyllable n
  else (t.find? n).getD [n]

theorem decomposeIn_eq (h : Index.Holds decompositions) :
    decomposeIn (Index.build 12 decompositions).1 = decompose := by
  ext1 n
  rw [decomposeIn, decompose, Index.find?_eq h.2, h.toList_eq]

/-- The unified ideographs, which stand for themselves in every respect. -/
def isIdeograph (n : Nat) : Bool := 0x4E00 ≤ n && n ≤ 0x9FFF

/-- A pair composes to what decomposes to the pair. It ends beyond Latin-1, and begins neither with a full
stop nor with an ideograph. -/
def composes (t : Index) (c : Nat × Nat × Nat) : Bool :=
  decomposeIn t c.2.2 == decomposeIn t c.1 ++ [c.2.1] && 0xC0 ≤ c.2.1 && 0xC0 ≤ c.2.2 &&
    c.1 != '.'.toNat && !isIdeograph c.1 && decide c.2.2.isValidChar

/-- An image is decomposed fully, and holds no full stop. -/
def decomposesFully (t : Index) (d : Nat × List Nat) : Bool :=
  d.2.all fun m => decomposeIn t m == [m] && m != '.'.toNat && decide m.isValidChar

def agree (d : List (Nat × List Nat)) (c : List (Nat × Nat × Nat)) : Bool :=
  let t := (Index.build 12 d).1
  decide (Index.Holds d) && c.all (composes t) && d.all (decomposesFully t) &&
    t.allWithin firstLeading (beforeTrailing + trailingCount) fun _ _ => false

theorem agree_tables : agree decompositions compositions = true := by
  apply holds_of_spelled (fun d => agree d compositions = true)
  · unfold decompositionLines
    dsimp only
    repeat (first | exact .nil | (apply List.Forall₂.cons; with_reducible rfl))
  apply holds_of_spelled (fun c => agree _ c = true)
  · unfold compositionLines
    dsimp only
    repeat (first | exact .nil | (apply List.Forall₂.cons; with_reducible rfl))
  decide +kernel

theorem holds_decompositions : Index.Holds decompositions := by
  have h := agree_tables
  simp only [agree, Bool.and_eq_true, decide_eq_true_eq] at h
  exact h.1.1.1

theorem decompose_of_mem_compositions {c : Nat × Nat × Nat} (h : c ∈ compositions) :
    decompose c.2.2 = decompose c.1 ++ [c.2.1] ∧ 0xC0 ≤ c.2.1 ∧ 0xC0 ≤ c.2.2 ∧ c.1 ≠ '.'.toNat ∧
      isIdeograph c.1 = false ∧ c.2.2.isValidChar := by
  have hagree := agree_tables
  simp only [agree, Bool.and_eq_true, List.all_eq_true, decomposeIn_eq holds_decompositions,
    composes] at hagree
  have hc := hagree.1.1.2 c h
  simp only [beq_iff_eq, decide_eq_true_eq, bne_iff_ne, Bool.not_eq_true'] at hc
  obtain ⟨⟨⟨⟨⟨hpair, hend⟩, hcode⟩, hdot⟩, hideograph⟩, hvalid⟩ := hc
  exact ⟨hpair, hend, hcode, hdot, hideograph, hvalid⟩

theorem decompose_of_mem_decompositions {d : Nat × List Nat} (h : d ∈ decompositions) :
    ∀ m ∈ d.2, decompose m = [m] ∧ m ≠ '.'.toNat ∧ m.isValidChar := by
  intro m hm
  have hagree := agree_tables
  simp only [agree, Bool.and_eq_true, List.all_eq_true, decomposeIn_eq holds_decompositions,
    decomposesFully] at hagree
  have hd := hagree.1.2 d h m hm
  simp only [beq_iff_eq, decide_eq_true_eq, bne_iff_ne] at hd
  exact ⟨hd.1.1, hd.1.2, hd.2⟩

theorem isSyllable_iff {n : Nat} : isSyllable n = true ↔ 0xAC00 ≤ n ∧ n < 0xD7A4 := by
  unfold isSyllable
  rw [Bool.and_eq_true, decide_eq_true_iff, decide_eq_true_iff]
  rfl

/-- Syllables are made of letters. -/
theorem isLetter_of_mem_decomposeSyllable {n m : Nat} (hn : isSyllable n = true)
    (h : m ∈ decomposeSyllable n) : 0x1100 ≤ m ∧ m ≤ 0x11C3 := by
  rw [isSyllable_iff] at hn
  have hcases : m = 0x1100 + (n - 0xAC00) / 588 ∨ m = 0x1161 + (n - 0xAC00) / 28 % 21 ∨
      m = 0x11A7 + (n - 0xAC00) % 28 := by
    unfold decomposeSyllable at h
    dsimp only at h
    split at h
    · rcases List.mem_pair.mp h with hm | hm
      · exact .inl hm
      · exact .inr (.inl hm)
    · rcases List.mem_append.mp h with hm | hm
      · rcases List.mem_pair.mp hm with hm | hm
        · exact .inl hm
        · exact .inr (.inl hm)
      · exact .inr (.inr (List.mem_singleton.mp hm))
  omega

/-- Between codes without entries, every code stands for itself. -/
theorem decompose_of_allWithin {low high n : Nat} (hlow : low ≤ n) (hhigh : n ≤ high)
    (hnone : (Index.build 12 decompositions).1.allWithin low high (fun _ _ => false) = true)
    (hsyllable : isSyllable n = false) : decompose n = [n] := by
  have hall := Index.of_allWithin holds_decompositions.2 hnone
  rw [holds_decompositions.toList_eq] at hall
  have hfind : decompositions.find? (·.1 == n) = none := by
    refine List.find?_eq_none.mpr fun e he heq => ?_
    have hn := eq_of_beq heq
    exact Bool.false_ne_true (hall e he (hn ▸ hlow) (hn ▸ hhigh))
  rw [decompose, hsyllable, hfind]
  split <;> rfl

/-- What syllables are made of has no decomposition. -/
theorem decompose_letter {n : Nat} (hlow : 0x1100 ≤ n) (hhigh : n ≤ 0x11C3) : decompose n = [n] := by
  have hagree := agree_tables
  simp only [agree, Bool.and_eq_true] at hagree
  apply decompose_of_allWithin hlow hhigh hagree.2
  rw [← Bool.not_eq_true, isSyllable_iff]
  omega

end NormalForm

/-! ### Combining classes -/

/-- Characters of Latin-1 and ideographs are no marks. -/
def areStarters (classes : List (Nat × Nat × Nat)) : Bool :=
  classes.all fun c => 0xC0 ≤ c.1 && (c.2.1 < 0x4E00 || 0x9FFF < c.1)

theorem areStarters_combiningClasses : areStarters combiningClasses = true := by
  apply holds_of_spelled (fun c => areStarters c = true)
  · unfold combiningClassLines
    dsimp only
    repeat (first | exact .nil | (apply List.Forall₂.cons; with_reducible rfl))
  decide +kernel

theorem combiningClass_eq_zero {n : Nat} (h : n < 0xC0 ∨ NormalForm.isIdeograph n = true) :
    combiningClass n = 0 := by
  have hnone : combiningClasses.find? (fun c => c.1 ≤ n && n ≤ c.2.1) = none := by
    rw [List.find?_eq_none]
    intro c hc hin
    have hstarters := List.all_eq_true.mp areStarters_combiningClasses c hc
    simp only [Bool.and_eq_true, Bool.or_eq_true, decide_eq_true_eq, NormalForm.isIdeograph] at *
    omega
  calc combiningClass n
      = ((combiningClasses.find? fun c => c.1 ≤ n && n ≤ c.2.1).map (·.2.2)).getD 0 := rfl
    _ = 0 := by
      rw [hnone]
      rfl

end KeyApproval.Text

namespace KeyApproval.Domain

open Text

def isUpper (n : Nat) : Bool := 0x41 ≤ n && n ≤ 0x5A

/-- No character of the range is or decomposes to a capital of ASCII. -/
def rangeIsLower (t : Index) (r : Nat × Nat) : Bool :=
  (r.2 < 0x41 || 0x5A < r.1) && t.allWithin r.1 r.2 fun _ image => !image.any isUpper

/-- No image is or decomposes to a capital of ASCII. -/
def entryIsLower (t : Index) (e : MappingEntry) : Bool :=
  e.image.all fun m =>
    if e.step == 0 then !(NormalForm.decomposeIn t m).any isUpper
    else (m + (e.last - e.first) < 0x41 || 0x5A < m) &&
      t.allWithin m (m + (e.last - e.first)) fun n image =>
        (n - m) % e.step != 0 || !image.any isUpper

def isLowerCase (d : List (Nat × List Nat)) (v : List (Nat × Nat)) (m : List MappingEntry) : Bool :=
  let t := (Index.build 12 d).1
  v.all (rangeIsLower t) && m.all (entryIsLower t) && (v.any fun r => r.1 ≤ 0x4E00 && 0x9FFF ≤ r.2) &&
    (t.allWithin 0x4E00 0x9FFF fun _ _ => false) && m.all fun e => e.last < 0x4E00 || 0x9FFF < e.first

theorem isLowerCase_tables : isLowerCase decompositions validRanges.ranges mapping = true := by
  apply holds_of_spelled (fun d => isLowerCase d validRanges.ranges mapping = true)
  · unfold decompositionLines
    dsimp only
    repeat (first | exact .nil | (apply List.Forall₂.cons; with_reducible rfl))
  apply holds_of_spelled (fun v => isLowerCase _ v mapping = true)
  · unfold validLines
    dsimp only
    repeat (first | exact .nil | (apply List.Forall₂.cons; with_reducible rfl))
  apply holds_of_spelled (fun m => isLowerCase _ _ m = true)
  · unfold mappingLines
    dsimp only
    repeat (first | exact .nil | (apply List.Forall₂.cons; with_reducible rfl))
  decide +kernel

theorem rangeIsLower_of_mem {r : Nat × Nat} (h : r ∈ validRanges.ranges) :
    rangeIsLower (Index.build 12 decompositions).1 r = true := by
  have hall := isLowerCase_tables
  simp only [isLowerCase, Bool.and_eq_true, List.all_eq_true] at hall
  exact hall.1.1.1.1 r h

theorem entryIsLower_of_mem {e : MappingEntry} (h : e ∈ mapping) :
    entryIsLower (Index.build 12 decompositions).1 e = true := by
  have hall := isLowerCase_tables
  simp only [isLowerCase, Bool.and_eq_true, List.all_eq_true] at hall
  exact hall.1.1.1.2 e h

/-- A code is no capital and decomposes to none, if the tables say so for its entries. -/
theorem any_isUpper_decompose {n : Nat} (hself : isUpper n = false)
    (hentry : ∀ e ∈ decompositions, e.1 = n → e.2.any isUpper = false) :
    (NormalForm.decompose n).any isUpper = false := by
  rw [NormalForm.decompose]
  split
  · simpa using hself
  · split
    next hsyllable =>
      rw [List.any_eq_false]
      intro m hm
      have hletter := NormalForm.isLetter_of_mem_decomposeSyllable hsyllable hm
      simp only [isUpper, Bool.and_eq_true, decide_eq_true_eq]
      omega
    next =>
      cases hfind : decompositions.find? (·.1 == n) with
      | none => simpa using hself
      | some e =>
        have hn := List.find?_some hfind
        exact hentry e (List.mem_of_find?_eq_some hfind) (by simpa using hn)

theorem any_isUpper_of_isValid {c : Char} (h : isValid c = true) :
    (NormalForm.decompose c.toNat).any isUpper = false := by
  obtain ⟨r, hr, hin⟩ := List.any_eq_true.mp h
  have hlower := rangeIsLower_of_mem hr
  simp only [rangeIsLower, Bool.and_eq_true, Bool.or_eq_true, decide_eq_true_eq] at hlower hin
  have hall := Index.of_allWithin NormalForm.holds_decompositions.2 hlower.2
  rw [NormalForm.holds_decompositions.toList_eq] at hall
  refine any_isUpper_decompose ?_ fun e he hn => ?_
  · simp only [isUpper, Bool.and_eq_false_iff, decide_eq_false_iff_not]
    omega
  · simpa using hall e he (by omega) (by omega)

theorem any_isUpper_of_mem_apply {e : MappingEntry} (he : e ∈ mapping) {n : Nat}
    (hcovers : e.covers n = true) {m : Nat} (hm : m ∈ e.apply n) :
    (NormalForm.decompose m).any isUpper = false := by
  have hlower := List.all_eq_true.mp (entryIsLower_of_mem he)
  simp only [MappingEntry.covers, Bool.and_eq_true, Bool.or_eq_true, decide_eq_true_eq,
    beq_iff_eq] at hcovers
  rw [MappingEntry.apply] at hm
  split at hm
  next hstep =>
    have hm' := hlower m hm
    rw [if_pos hstep, NormalForm.decomposeIn_eq NormalForm.holds_decompositions] at hm'
    simpa using hm'
  next hstep =>
    obtain ⟨base, hbase, rfl⟩ := List.mem_map.mp hm
    have hm' := hlower base hbase
    simp only [if_neg hstep, Bool.and_eq_true, Bool.or_eq_true, decide_eq_true_eq] at hm'
    have hall := Index.of_allWithin NormalForm.holds_decompositions.2 hm'.2
    rw [NormalForm.holds_decompositions.toList_eq] at hall
    have hmod : (n - e.first) % e.step = 0 := hcovers.2.resolve_left (by simpa using hstep)
    refine any_isUpper_decompose ?_ fun d hd hn => ?_
    · simp only [isUpper, Bool.and_eq_false_iff, decide_eq_false_iff_not]
      omega
    · have hd' := hall d hd (by omega) (by omega)
      rw [hn, Nat.add_sub_cancel_left, hmod] at hd'
      simpa using hd'

/-! ### Ideographs -/

theorem isValid_of_isIdeograph {c : Char} (h : NormalForm.isIdeograph c.toNat = true) :
    isValid c = true := by
  have hall := isLowerCase_tables
  simp only [isLowerCase, Bool.and_eq_true, List.any_eq_true, decide_eq_true_eq] at hall
  obtain ⟨r, hr, hrange⟩ := hall.1.1.2
  simp only [NormalForm.isIdeograph, Bool.and_eq_true, decide_eq_true_eq] at h
  refine List.any_eq_true.mpr ⟨r, hr, ?_⟩
  simp only [Bool.and_eq_true, decide_eq_true_eq]
  omega

theorem image?_of_isIdeograph {c : Char} (h : NormalForm.isIdeograph c.toNat = true) :
    image? c = none := by
  have hall := isLowerCase_tables
  simp only [isLowerCase, Bool.and_eq_true, List.all_eq_true] at hall
  simp only [NormalForm.isIdeograph, Bool.and_eq_true, decide_eq_true_eq] at h
  rw [image?, Option.map_eq_none_iff, List.find?_eq_none]
  intro e he hcovers
  have hapart := hall.2 e he
  simp only [MappingEntry.covers, Bool.and_eq_true, Bool.or_eq_true, decide_eq_true_eq] at *
  omega

theorem decompose_of_isIdeograph {n : Nat} (h : NormalForm.isIdeograph n = true) :
    NormalForm.decompose n = [n] := by
  have hall := isLowerCase_tables
  simp only [isLowerCase, Bool.and_eq_true] at hall
  simp only [NormalForm.isIdeograph, Bool.and_eq_true, decide_eq_true_eq] at h
  apply NormalForm.decompose_of_allWithin h.1 h.2 hall.1.2
  rw [← Bool.not_eq_true, NormalForm.isSyllable_iff]
  omega

/-! ### Characters of no direction of their own -/

/-- A digit or an ideograph. -/
def isPlainLetter (n : Nat) : Bool := 0x30 ≤ n && n ≤ 0x39 || NormalForm.isIdeograph n

def standsApart (r : Nat × Nat) : Bool :=
  (r.2 < 0x30 || 0x39 < r.1) && (r.2 < 0x4E00 || 0x9FFF < r.1)

/-- Digits and ideographs are no marks, and do not run from right to left. -/
theorem standsApart_tables {lines : List String}
    (h : lines ∈ [rightToLeftLines, arabicLetterLines, arabicNumberLines, markLines]) :
    (CodeRanges.ofLines lines).ranges.all standsApart = true := by
  simp only [List.mem_cons, List.not_mem_nil, or_false] at h
  rcases h with rfl | rfl | rfl | rfl
  · apply holds_of_spelled (fun ranges => ranges.all standsApart = true)
    · unfold rightToLeftLines
      repeat (first | exact .nil | (apply List.Forall₂.cons; with_reducible rfl))
    · decide +kernel
  · apply holds_of_spelled (fun ranges => ranges.all standsApart = true)
    · unfold arabicLetterLines
      repeat (first | exact .nil | (apply List.Forall₂.cons; with_reducible rfl))
    · decide +kernel
  · apply holds_of_spelled (fun ranges => ranges.all standsApart = true)
    · unfold arabicNumberLines
      repeat (first | exact .nil | (apply List.Forall₂.cons; with_reducible rfl))
    · decide +kernel
  · apply holds_of_spelled (fun ranges => ranges.all standsApart = true)
    · unfold markLines
      repeat (first | exact .nil | (apply List.Forall₂.cons; with_reducible rfl))
    · decide +kernel

theorem containsChar_eq_false {lines : List String}
    (h : lines ∈ [rightToLeftLines, arabicLetterLines, arabicNumberLines, markLines]) {c : Char}
    (hc : isPlainLetter c.toNat = true) : (CodeRanges.ofLines lines).containsChar c = false := by
  rw [CodeRanges.containsChar, CodeRanges.contains, List.any_eq_false]
  intro r hr hin
  have hapart := List.all_eq_true.mp (standsApart_tables h) r hr
  simp only [isPlainLetter, NormalForm.isIdeograph, standsApart, Bool.and_eq_true, Bool.or_eq_true,
    decide_eq_true_eq] at hc hapart hin
  omega

theorem isMark_eq_false {c : Char} (hc : isPlainLetter c.toNat = true) : isMark c = false :=
  containsChar_eq_false (by simp) hc

theorem mem_directionTables {c : Char} {d : Direction} (h : direction c = d) (hd : d ≠ .leftToRight) :
    ∃ ranges, (d, ranges) ∈ directionTables ∧ ranges.containsChar c = true := by
  rw [direction] at h
  cases hfind : directionTables.find? fun e => e.2.containsChar c with
  | none =>
    have hleft : Direction.leftToRight = d := by
      rw [← h]
      exact congrArg (fun o => (Option.map (·.1) o).getD .leftToRight) hfind.symm
    exact absurd hleft.symm hd
  | some e =>
    have hfound : e.1 = d := by
      rw [← h]
      exact congrArg (fun o => (Option.map (·.1) o).getD .leftToRight) hfind.symm
    exact ⟨e.2, hfound ▸ List.mem_of_find?_eq_some hfind, by simpa using List.find?_some hfind⟩

/-- Names of digits and ideographs are free of the rules for writing from right to left. -/
theorem isBidirectional_eq_false {labels : List (List Char)}
    (h : ∀ label ∈ labels, ∀ c ∈ label, isPlainLetter c.toNat = true) : isBidirectional labels = false := by
  have hdirection {c : Char} (hc : isPlainLetter c.toNat = true) (d : Direction)
      (hd : d = .rightToLeft ∨ d = .arabicLetter ∨ d = .arabicNumber) : direction c ≠ d := by
    intro heq
    rcases hd with rfl | rfl | rfl
    all_goals
      obtain ⟨ranges, hmem, hcontains⟩ := mem_directionTables heq (by decide)
      simp only [directionTables, List.mem_cons, Prod.mk.injEq, reduceCtorEq, false_and, true_and,
        List.not_mem_nil, or_false, false_or] at hmem
      rw [hmem, containsChar_eq_false (by simp) hc] at hcontains
      exact Bool.false_ne_true hcontains
  rw [isBidirectional, List.any_eq_false]
  intro label hlabel
  rw [Bool.not_eq_true, List.any_eq_false]
  intro c hc
  have hplain := h label hlabel c hc
  have hright := hdirection hplain .rightToLeft (.inl rfl)
  have hletter := hdirection hplain .arabicLetter (.inr (.inl rfl))
  have hnumber := hdirection hplain .arabicNumber (.inr (.inr rfl))
  simp [runsLeft, hright, hletter, hnumber]

end KeyApproval.Domain
