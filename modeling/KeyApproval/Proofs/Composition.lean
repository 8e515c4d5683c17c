import KeyApproval.Proofs.CodeTables
import KeyApproval.Proofs.WellFormedText
import Mathlib.Data.List.Chain

/-!
# Composing a composed text

Composition keeps what a text decomposes to. Characters are only put together when nothing between them
could be reordered, so that taking the result apart and sorting its marks gives the sorted marks that
were composed, and composing again changes nothing. As no character composes with a full stop, a text is
composed label by label.
-/

namespace KeyApproval.Text.NormalForm

/-! ### Sorting marks -/

/-- Adds a code point to texts of sorted code points and the marks at their end. -/
def place (s : List (Nat × Nat) × List (Nat × Nat)) (n : Nat) : List (Nat × Nat) × List (Nat × Nat) :=
  if combiningClass n = 0 then ((n, 0) :: s.2 ++ s.1, [])
  else (s.1, insertMark (n, combiningClass n) s.2)

theorem sortMarks_eq (codes : List Nat) :
    sortMarks codes =
      ((codes.foldl place ([], [])).2 ++ (codes.foldl place ([], [])).1).reverse := rfl

theorem insertMark_comm {a b : Nat × Nat} (h : a.2 < b.2) (marks : List (Nat × Nat)) :
    insertMark a (insertMark b marks) = insertMark b (insertMark a marks) := by
  induction marks with
  | nil => simp [insertMark, h, Nat.not_lt.mpr (Nat.le_of_lt h)]
  | cons last rest ih =>
    by_cases hb : b.2 < last.2
    · have ha : a.2 < last.2 := Nat.lt_trans h hb
      simp [insertMark, ha, hb, ih]
    · by_cases ha : a.2 < last.2
      · simp [insertMark, ha, hb, h]
      · simp [insertMark, ha, hb, h, Nat.not_lt.mpr (Nat.le_of_lt h)]

/-- A mark may stand before marks of lower classes or behind them. -/
theorem foldl_place_comm {n : Nat} {marks : List Nat}
    (h : ∀ m ∈ marks, combiningClass m ≠ 0 ∧ combiningClass m < combiningClass n)
    (s : List (Nat × Nat) × List (Nat × Nat)) :
    (n :: marks).foldl place s = (marks ++ [n]).foldl place s := by
  induction marks generalizing s with
  | nil => rfl
  | cons m marks ih =>
    obtain ⟨hm, hlt⟩ := h m List.mem_cons_self
    have hswap : place (place s n) m = place (place s m) n := by
      simp only [place, if_neg hm, if_neg (show combiningClass n ≠ 0 by omega)]
      rw [insertMark_comm hlt]
    calc (n :: m :: marks).foldl place s = (n :: marks).foldl place (place s m) := by
          rw [List.foldl_cons, List.foldl_cons, hswap]
          rfl
      _ = (marks ++ [n]).foldl place (place s m) :=
          ih (fun d hd => h d (List.mem_cons_of_mem m hd)) (place s m)
      _ = (m :: marks ++ [n]).foldl place s := rfl

theorem sortMarks_comm {n : Nat} {marks : List Nat}
    (h : ∀ m ∈ marks, combiningClass m ≠ 0 ∧ combiningClass m < combiningClass n)
    (front : List Nat) : sortMarks (front ++ n :: marks) = sortMarks (front ++ marks ++ [n]) := by
  rw [sortMarks_eq, sortMarks_eq, List.append_assoc, List.foldl_append, List.foldl_append,
    foldl_place_comm h]

/-- Whether a code point may follow another in a sorted text. -/
def MayFollow (p q : Nat × Nat) : Prop := q.2 = 0 ∨ p.2 ≤ q.2

/-- A code point that may stand at the end stays there. -/
theorem sortMarks_concat {codes : List Nat} {n : Nat}
    (h : ∀ p, (sortMarks codes).getLast? = some p → MayFollow p (n, combiningClass n)) :
    sortMarks (codes ++ [n]) = sortMarks codes ++ [(n, combiningClass n)] := by
  simp only [sortMarks_eq, List.getLast?_reverse, List.foldl_append, List.foldl_cons,
    List.foldl_nil] at h ⊢
  generalize codes.foldl place ([], []) = s at h ⊢
  rw [place]
  split
  next hk => simp [hk]
  next hk =>
    have hinsert : insertMark (n, combiningClass n) s.2 = (n, combiningClass n) :: s.2 := by
      cases hmarks : s.2 with
      | nil => rfl
      | cons last rest =>
        have hlast := (h last (by simp [hmarks])).resolve_left hk
        rw [insertMark, if_neg (Nat.not_lt.mpr hlast)]
    simp [hinsert]

theorem foldl_place_base (base : List (Nat × Nat)) (codes : List Nat) (sorted marks : List (Nat × Nat)) :
    codes.foldl place (sorted ++ base, marks) =
      ((codes.foldl place (sorted, marks)).1 ++ base, (codes.foldl place (sorted, marks)).2) := by
  induction codes generalizing sorted marks with
  | nil => rfl
  | cons n codes ih =>
    rw [List.foldl_cons, List.foldl_cons, place, place]
    split
    · rw [← List.append_assoc]
      exact ih _ _
    · exact ih _ _

/-- A starter keeps what stands before it apart from what follows. -/
theorem sortMarks_append {n : Nat} (hn : combiningClass n = 0) (front rest : List Nat) :
    sortMarks (front ++ n :: rest) = sortMarks front ++ (n, 0) :: sortMarks rest := by
  rw [sortMarks_eq, sortMarks_eq, sortMarks_eq, List.foldl_append, List.foldl_cons]
  generalize front.foldl place ([], []) = s
  have hplace : place s n = ([] ++ ((n, 0) :: s.2 ++ s.1), []) := by simp [place, hn]
  rw [hplace, foldl_place_base]
  simp

theorem mem_insertMark {p mark : Nat × Nat} {marks : List (Nat × Nat)} :
    p ∈ insertMark mark marks ↔ p = mark ∨ p ∈ marks := by
  induction marks with
  | nil => simp [insertMark]
  | cons last rest ih =>
    rw [insertMark]
    split
    · rw [List.mem_cons, ih, List.mem_cons]
      exact or_left_comm
    · rw [List.mem_cons]

theorem insertMark_pairwise (mark : Nat × Nat) {marks : List (Nat × Nat)}
    (h : marks.Pairwise fun q p => p.2 ≤ q.2) :
    (insertMark mark marks).Pairwise fun q p => p.2 ≤ q.2 := by
  induction marks with
  | nil => simp [insertMark]
  | cons last rest ih =>
    obtain ⟨hlast, hrest⟩ := List.pairwise_cons.mp h
    rw [insertMark]
    split
    next hlt =>
      refine List.pairwise_cons.mpr ⟨fun p hp => ?_, ih hrest⟩
      cases mem_insertMark.mp hp with
      | inl heq => exact heq ▸ Nat.le_of_lt hlt
      | inr hmem => exact hlast p hmem
    next hge =>
      refine List.pairwise_cons.mpr ⟨fun p hp => ?_, h⟩
      cases List.mem_cons.mp hp with
      | inl heq => exact heq ▸ Nat.not_lt.mp hge
      | inr hmem => exact Nat.le_trans (hlast p hmem) (Nat.not_lt.mp hge)

/-- Sorted code points behind which marks are being sorted. All lists come last first. -/
structure IsSorted (codes : List Nat) (s : List (Nat × Nat) × List (Nat × Nat)) : Prop where
  marks : s.2.Pairwise fun q p => p.2 ≤ q.2
  sorted : s.1.IsChain fun q p => MayFollow p q
  start : ∀ p, s.1.head? = some p → p.2 = 0
  mem : ∀ p ∈ s.2 ++ s.1, p.2 = combiningClass p.1 ∧ p.1 ∈ codes

variable {codes : List Nat} {s : List (Nat × Nat) × List (Nat × Nat)}

theorem IsSorted.chain (h : IsSorted codes s) : (s.2 ++ s.1).IsChain fun q p => MayFollow p q := by
  refine List.isChain_append.mpr ⟨?_, h.sorted, fun q _ p hp => .inr ?_⟩
  · exact h.marks.isChain.imp fun q p hle => .inr hle
  · rw [h.start p hp]
    exact Nat.zero_le _

theorem IsSorted.place (h : IsSorted codes s) {n : Nat} (hn : n ∈ codes) :
    IsSorted codes (place s n) := by
  rw [NormalForm.place]
  split
  next hk =>
    refine ⟨List.Pairwise.nil, ?_, ?_, ?_⟩
    · exact h.chain.cons fun _ _ => .inl rfl
    · simp
    · intro p hp
      cases List.mem_cons.mp hp with
      | inl heq => exact heq ▸ ⟨hk.symm, hn⟩
      | inr hmem => exact h.mem p hmem
  next hk =>
    refine ⟨insertMark_pairwise _ h.marks, h.sorted, h.start, fun p hp => ?_⟩
    rcases List.mem_append.mp hp with hmark | hsorted
    · cases mem_insertMark.mp hmark with
      | inl heq => exact heq ▸ ⟨rfl, hn⟩
      | inr hmem => exact h.mem p (List.mem_append_left _ hmem)
    · exact h.mem p (List.mem_append_right _ hsorted)

theorem isSorted_foldl (h : IsSorted codes s) {rest : List Nat} (hrest : ∀ n ∈ rest, n ∈ codes) :
    IsSorted codes (rest.foldl NormalForm.place s) := by
  induction rest generalizing s with
  | nil => exact h
  | cons n rest ih =>
    exact ih (h.place (hrest n List.mem_cons_self)) fun m hm => hrest m (List.mem_cons_of_mem n hm)

theorem isSorted_sortMarks (codes : List Nat) : IsSorted codes (codes.foldl NormalForm.place ([], [])) :=
  isSorted_foldl ⟨List.Pairwise.nil, .nil, by simp, by simp⟩ fun _ hn => hn

theorem sortMarks_isChain (codes : List Nat) : (sortMarks codes).IsChain MayFollow := by
  rw [sortMarks_eq, List.isChain_reverse]
  exact (isSorted_sortMarks codes).chain

theorem mem_sortMarks {p : Nat × Nat} (h : p ∈ sortMarks codes) :
    p.2 = combiningClass p.1 ∧ p.1 ∈ codes := by
  rw [sortMarks_eq, List.mem_reverse] at h
  exact (isSorted_sortMarks codes).mem p h

/-! ### Pairs -/

theorem decompose_syllable {n : Nat} (h : isSyllable n = true) : decompose n = decomposeSyllable n := by
  have hn := isSyllable_iff.mp h
  rw [decompose, if_neg (by omega), if_pos h]

theorem decomposeSyllable_eq (n : Nat) :
    decomposeSyllable n =
      if (n - 0xAC00) % 28 = 0 then [0x1100 + (n - 0xAC00) / 588, 0x1161 + (n - 0xAC00) / 28 % 21]
      else [0x1100 + (n - 0xAC00) / 588, 0x1161 + (n - 0xAC00) / 28 % 21] ++
        [0x11A7 + (n - 0xAC00) % 28] := by
  have hfirst : firstSyllable = 0xAC00 := rfl
  rw [decomposeSyllable, hfirst]
  rfl

theorem composeSyllable?_spec {a b c : Nat} (h : composeSyllable? a b = some c) :
    decompose c = decompose a ++ [b] ∧ isSyllable c = true ∧ 0x1100 ≤ a ∧ 0x1161 ≤ b ∧
      isIdeograph a = false := by
  have hideograph (hfree : a < 0x4E00 ∨ 0x9FFF < a) : isIdeograph a = false := by
    rw [isIdeograph, Bool.and_eq_false_iff, decide_eq_false_iff_not, decide_eq_false_iff_not]
    omega
  unfold composeSyllable? at h
  split at h
  next hpair =>
    obtain ⟨ha, ha', hb, hb'⟩ : 0x1100 ≤ a ∧ a < 0x1113 ∧ 0x1161 ≤ b ∧ b < 0x1176 := hpair
    have hc : c = 0xAC00 + ((a - 0x1100) * 21 + (b - 0x1161)) * 28 := (Option.some.inj h).symm
    have hsyllable : isSyllable c = true := isSyllable_iff.mpr (by omega)
    refine ⟨?_, hsyllable, ha, hb, hideograph (by omega)⟩
    have hlast : (c - 0xAC00) % 28 = 0 := by omega
    have hfirst : 0x1100 + (c - 0xAC00) / 588 = a := by omega
    have hvowel : 0x1161 + (c - 0xAC00) / 28 % 21 = b := by omega
    rw [decompose_syllable hsyllable, decompose_letter ha (by omega)]
    rw [decomposeSyllable_eq, if_pos hlast, hfirst, hvowel]
    rfl
  next =>
    split at h
    next htriple =>
      obtain ⟨ha, hzero, hb, hb'⟩ : isSyllable a = true ∧ (a - 0xAC00) % 28 = 0 ∧ 0x11A7 < b ∧
        b < 0x11C3 := htriple
      have hbounds := isSyllable_iff.mp ha
      have hc : c = a + (b - 0x11A7) := (Option.some.inj h).symm
      have hsyllable : isSyllable c = true := isSyllable_iff.mpr (by omega)
      refine ⟨?_, hsyllable, by omega, by omega, hideograph (by omega)⟩
      have hlast : ¬(c - 0xAC00) % 28 = 0 := by omega
      have hfirst : (c - 0xAC00) / 588 = (a - 0xAC00) / 588 := by omega
      have hvowel : (c - 0xAC00) / 28 = (a - 0xAC00) / 28 := by omega
      have hend : 0x11A7 + (c - 0xAC00) % 28 = b := by omega
      rw [decompose_syllable hsyllable, decompose_syllable ha, decomposeSyllable_eq,
        decomposeSyllable_eq, if_neg hlast, if_pos hzero, hfirst, hvowel, hend]
    next => contradiction

/-- What a pair composes to decomposes to the pair. -/
theorem composePair?_spec {a b c : Nat} (h : composePair? a b = some c) :
    decompose c = decompose a ++ [b] ∧ c.isValidChar ∧ 0xC0 ≤ b ∧ 0xC0 ≤ c ∧ a ≠ '.'.toNat ∧
      isIdeograph a = false := by
  rw [composePair?] at h
  split at h
  next hsyllable =>
    cases h
    obtain ⟨hpair, hc, ha, hb, hideograph⟩ := composeSyllable?_spec hsyllable
    have hbounds := isSyllable_iff.mp hc
    have hdot : '.'.toNat = 0x2E := rfl
    refine ⟨hpair, .inl (by omega), by omega, by omega, by omega, hideograph⟩
  next =>
    obtain ⟨⟨x, y, z⟩, hfind, rfl⟩ := Option.map_eq_some_iff.mp h
    have hxy := List.find?_some hfind
    simp only [Bool.and_eq_true, beq_iff_eq] at hxy
    obtain ⟨rfl, rfl⟩ := hxy
    obtain ⟨hpair, hb, hc, hdot, hideograph, hvalid⟩ :=
      decompose_of_mem_compositions (List.mem_of_find?_eq_some hfind)
    exact ⟨hpair, hvalid, hb, hc, hdot, hideograph⟩

/-- The parts of a decomposition are not decomposed further. -/
theorem decompose_of_mem_decompose {n m : Nat} (h : m ∈ decompose n) :
    decompose m = [m] ∧ (n.isValidChar → m.isValidChar) ∧ (m = '.'.toNat → n = '.'.toNat) := by
  have hself (hn : decompose n = [n]) : decompose m = [m] ∧ (n.isValidChar → m.isValidChar) ∧
      (m = '.'.toNat → n = '.'.toNat) := by
    rw [hn] at h
    cases List.mem_singleton.mp h
    exact ⟨hn, id, id⟩
  by_cases hsmall : n < 0xC0
  · exact hself (by rw [decompose, if_pos hsmall])
  by_cases hsyllable : isSyllable n = true
  · rw [decompose_syllable hsyllable] at h
    have hletter := isLetter_of_mem_decomposeSyllable hsyllable h
    have hdot : '.'.toNat = 0x2E := rfl
    exact ⟨decompose_letter hletter.1 hletter.2, fun _ => .inl (by omega), fun _ => by omega⟩
  have hlookup : decompose n = ((decompositions.find? (·.1 == n)).map (·.2)).getD [n] := by
    rw [decompose, if_neg hsmall, if_neg hsyllable]
  cases hfind : decompositions.find? (·.1 == n) with
  | none => exact hself (by rw [hlookup, hfind]; rfl)
  | some d =>
    rw [hlookup, hfind] at h
    obtain ⟨hfull, hdot, hvalid⟩ :=
      decompose_of_mem_decompositions (List.mem_of_find?_eq_some hfind) m h
    exact ⟨hfull, fun _ => hvalid, fun heq => absurd heq hdot⟩

/-! ### Composition -/

/-- Composition of sorted code points; the result comes last first. -/
def recompose (sorted : List (Nat × Nat)) : List Nat := (sorted.foldl Composing.put ⟨[], none, []⟩).all

/-- A text in composition decomposes to the code points that were put into it. All marks that wait behind
the starter have classes of at most the last one's, in order. -/
structure Composing.Keeps (st : Composing) (seen : List (Nat × Nat)) : Prop where
  sorts : sortMarks (st.all.reverse.flatMap decompose) = seen
  marks : st.marks.Pairwise fun q p => p.2 ≤ q.2
  mark : ∀ m ∈ st.marks, m.2 ≠ 0 ∧ m.2 = combiningClass m.1 ∧ decompose m.1 = [m.1] ∧
    ∃ p, seen.getLast? = some p ∧ m.2 ≤ p.2
  waits : st.starter = none → st.marks = []

variable {st : Composing} {seen : List (Nat × Nat)} {n : Nat}

theorem Composing.Keeps.le_of_mem (h : st.Keeps seen)
    (hfollow : ∀ p, seen.getLast? = some p → MayFollow p (n, combiningClass n)) {m : Nat × Nat}
    (hm : m ∈ st.marks) (hn : combiningClass n ≠ 0) : m.2 ≤ combiningClass n := by
  obtain ⟨-, -, -, p, hp, hle⟩ := h.mark m hm
  exact Nat.le_trans hle ((hfollow p hp).resolve_left hn)

/-- A code point that is not composed is added to the text. -/
theorem Composing.Keeps.sortMarks_add (h : st.Keeps seen)
    (hfollow : ∀ p, seen.getLast? = some p → MayFollow p (n, combiningClass n))
    (hfull : decompose n = [n]) :
    sortMarks ((n :: st.all).reverse.flatMap decompose) = seen ++ [(n, combiningClass n)] := by
  rw [List.reverse_cons, List.flatMap_append, List.flatMap_singleton, hfull]
  rw [← h.sorts] at hfollow ⊢
  exact sortMarks_concat hfollow

/-- The starter takes a code point in over marks of lower classes only. -/
theorem Composing.Keeps.compose {a c : Nat} (h : st.Keeps seen) (ha : st.starter = some a)
    (hfollow : ∀ p, seen.getLast? = some p → MayFollow p (n, combiningClass n))
    (hfull : decompose n = [n]) (hc : composePair? a n = some c)
    (hfree : ∀ m ∈ st.marks, m.2 < combiningClass n) :
    Keeps { st with starter := some c } (seen ++ [(n, combiningClass n)]) := by
  refine ⟨?_, h.marks, fun m hm => ?_, fun hnone => by contradiction⟩
  · have hmarks : (st.marks.map (·.1)).reverse.flatMap decompose = (st.marks.map (·.1)).reverse := by
      rw [List.flatMap_congr (g := fun m => [m])]
      · simp
      · intro m hm
        obtain ⟨p, hp, rfl⟩ := List.mem_map.mp (List.mem_reverse.mp hm)
        exact (h.mark p hp).2.2.1
    have hlower : ∀ m ∈ (st.marks.map (·.1)).reverse,
        combiningClass m ≠ 0 ∧ combiningClass m < combiningClass n := by
      intro m hm
      obtain ⟨p, hp, rfl⟩ := List.mem_map.mp (List.mem_reverse.mp hm)
      obtain ⟨hne, hclass, -⟩ := h.mark p hp
      exact ⟨hclass ▸ hne, hclass ▸ hfree p hp⟩
    have hadd := h.sortMarks_add hfollow hfull
    simp only [all, ha, Option.toList_some, List.reverse_cons, List.reverse_append,
      List.flatMap_append, List.reverse_nil, List.nil_append, List.flatMap_singleton, hfull,
      hmarks] at hadd ⊢
    rw [(composePair?_spec hc).1, ← hadd]
    simpa using sortMarks_comm hlower (st.finished.reverse.flatMap decompose ++ decompose a)
  · obtain ⟨hne, hclass, hself, -⟩ := h.mark m hm
    exact ⟨hne, hclass, hself, _, List.getLast?_concat, Nat.le_of_lt (hfree m hm)⟩

/-- Whether marks keep a code point of the class from the starter. -/
def Composing.isBlocked (st : Composing) (k : Nat) : Bool :=
  match st.marks with
  | [] => false
  | (_, last) :: _ => k ≤ last

theorem Composing.put_eq (st : Composing) (n k : Nat) :
    st.put (n, k) =
      match st.starter.bind fun a => if st.isBlocked k then none else composePair? a n with
      | some composed => { st with starter := some composed }
      | none =>
        if k = 0 then ⟨st.all, some n, []⟩
        else if st.starter.isNone then ⟨n :: st.finished, none, []⟩
        else { st with marks := (n, k) :: st.marks } := rfl

theorem Composing.Keeps.lt_of_not_isBlocked (h : st.Keeps seen) {k : Nat}
    (hfree : st.isBlocked k = false) : ∀ m ∈ st.marks, m.2 < k := by
  intro m hm
  cases hmarks : st.marks with
  | nil => simp [hmarks] at hm
  | cons last rest =>
    have hlast : last.2 < k := by
      rw [isBlocked, hmarks] at hfree
      simpa using hfree
    have hsorted := h.marks
    rw [hmarks] at hm hsorted
    cases List.mem_cons.mp hm with
    | inl heq => exact heq ▸ hlast
    | inr hmem => exact Nat.lt_of_le_of_lt ((List.pairwise_cons.mp hsorted).1 m hmem) hlast

/-- One step of composition. -/
theorem Composing.Keeps.put (h : st.Keeps seen)
    (hfollow : ∀ p, seen.getLast? = some p → MayFollow p (n, combiningClass n))
    (hfull : decompose n = [n]) :
    (st.put (n, combiningClass n)).Keeps (seen ++ [(n, combiningClass n)]) := by
  have hadd := h.sortMarks_add hfollow hfull
  rw [put_eq]
  split
  next c hc =>
    obtain ⟨a, ha, hpair⟩ := Option.bind_eq_some_iff.mp hc
    split at hpair
    · contradiction
    next hfree =>
      exact h.compose ha hfollow hfull hpair (h.lt_of_not_isBlocked (Bool.eq_false_iff.mpr hfree))
  next =>
    split
    next hk => exact ⟨hadd, List.Pairwise.nil, by simp, fun _ => rfl⟩
    next hk =>
      split
      next hnone =>
        rw [Option.isNone_iff_eq_none] at hnone
        refine ⟨?_, List.Pairwise.nil, by simp, fun _ => rfl⟩
        rw [all, hnone, h.waits hnone] at hadd
        exact hadd
      next hsome =>
        refine ⟨hadd, ?_, ?_, fun hnone => absurd (Option.isNone_iff_eq_none.mpr hnone) hsome⟩
        · exact List.pairwise_cons.mpr ⟨fun m hm => h.le_of_mem hfollow hm hk, h.marks⟩
        · intro m hm
          cases List.mem_cons.mp hm with
          | inl heq =>
            rw [heq]
            exact ⟨hk, rfl, hfull, _, List.getLast?_concat, Nat.le_refl _⟩
          | inr hmem =>
            obtain ⟨hne, hclass, hself, -⟩ := h.mark m hmem
            exact ⟨hne, hclass, hself, _, List.getLast?_concat, h.le_of_mem hfollow hmem hk⟩

/-- A whole run of composition. -/
theorem Composing.Keeps.foldl (h : st.Keeps seen) {rest : List (Nat × Nat)}
    (hchain : (seen ++ rest).IsChain MayFollow)
    (hrest : ∀ p ∈ rest, p.2 = combiningClass p.1 ∧ decompose p.1 = [p.1]) :
    (rest.foldl Composing.put st).Keeps (seen ++ rest) := by
  induction rest generalizing st seen with
  | nil => simpa using h
  | cons p rest ih =>
    obtain ⟨hclass, hfull⟩ := hrest p List.mem_cons_self
    have hp : p = (p.1, combiningClass p.1) := by rw [← hclass]
    rw [List.append_cons] at hchain ⊢
    refine ih ?_ hchain fun q hq => hrest q (List.mem_cons_of_mem p hq)
    rw [hp]
    refine h.put (fun q hq => ?_) hfull
    rw [← hp]
    exact (List.isChain_append.mp hchain.left_of_append).2.2 q hq p rfl

/-- Sorting the decomposition of a composed text gives back what was composed. -/
theorem sortMarks_recompose {codes : List Nat} (hfull : ∀ n ∈ codes, decompose n = [n]) :
    sortMarks ((recompose (sortMarks codes)).reverse.flatMap decompose) = sortMarks codes := by
  have hstart : Composing.Keeps ⟨[], none, []⟩ [] :=
    ⟨rfl, List.Pairwise.nil, by simp, fun _ => rfl⟩
  refine (hstart.foldl (sortMarks_isChain codes) fun p hp => ?_).sorts
  obtain ⟨hclass, hmem⟩ := mem_sortMarks hp
  exact ⟨hclass, hfull _ hmem⟩

/-! What a composed text holds. -/

/-- Composed code points are either those that were put in or composed of a pair. -/
theorem mem_all_put {p : Nat × Nat} {m : Nat} (h : m ∈ (st.put p).all) :
    m ∈ st.all ∨ m = p.1 ∨ ∃ a, composePair? a p.1 = some m := by
  obtain ⟨n, k⟩ := p
  rw [Composing.put_eq] at h
  split at h
  next c hc =>
    obtain ⟨a, ha, hpair⟩ := Option.bind_eq_some_iff.mp hc
    split at hpair
    · contradiction
    next =>
      simp only [Composing.all, Option.toList_some, List.append_assoc, List.mem_append,
        List.mem_singleton] at h
      rcases h with hm | rfl | hm
      · exact .inl (by simp [Composing.all, hm])
      · exact .inr (.inr ⟨a, hpair⟩)
      · exact .inl (by simp [Composing.all, hm])
  next =>
    split at h
    next =>
      cases List.mem_cons.mp h with
      | inl heq => exact .inr (.inl heq)
      | inr hold => exact .inl hold
    next =>
      split at h
      next hnone =>
        simp only [Composing.all, List.map_nil, Option.toList_none, List.nil_append,
          List.mem_cons] at h
        rcases h with rfl | hm
        · exact .inr (.inl rfl)
        · exact .inl (by simp [Composing.all, hm])
      next =>
        simp only [Composing.all, List.map_cons, List.cons_append, List.mem_cons] at h
        rcases h with rfl | hm
        · exact .inr (.inl rfl)
        · exact .inl hm

theorem mem_recompose {sorted : List (Nat × Nat)} {m : Nat} (h : m ∈ recompose sorted) :
    (∃ p ∈ sorted, p.1 = m) ∨ ∃ a b, composePair? a b = some m := by
  have hrun (st : Composing) (hm : m ∈ (sorted.foldl Composing.put st).all) :
      m ∈ st.all ∨ (∃ p ∈ sorted, p.1 = m) ∨ ∃ a b, composePair? a b = some m := by
    clear h
    induction sorted generalizing st with
    | nil => exact .inl hm
    | cons p sorted ih =>
      rcases ih (st.put p) hm with hput | ⟨q, hq, rfl⟩ | hpair
      · rcases mem_all_put hput with hold | rfl | ⟨a, ha⟩
        · exact .inl hold
        · exact .inr (.inl ⟨p, List.mem_cons_self, rfl⟩)
        · exact .inr (.inr ⟨a, p.1, ha⟩)
      · exact .inr (.inl ⟨q, List.mem_cons_of_mem p hq, rfl⟩)
      · exact .inr (.inr hpair)
  exact (hrun _ h).resolve_left (by simp [Composing.all])

/-! ### Whole texts -/

def decomposeAll (s : List Char) : List Nat := s.flatMap fun c => decompose c.toNat

/-- Characters that neither decompose nor compose with each other stay as they are. -/
theorem recompose_of_inert {codes : List Nat}
    (hclass : ∀ n ∈ codes, combiningClass n = 0)
    (hpair : ∀ a ∈ codes, ∀ b ∈ codes, composePair? a b = none) :
    (recompose (sortMarks codes)).reverse = codes := by
  have hsorted : sortMarks codes = codes.map fun n => (n, 0) := by
    clear hpair
    induction codes with
    | nil => rfl
    | cons n codes ih =>
      have hn := sortMarks_append (hclass n List.mem_cons_self) [] codes
      rw [List.nil_append] at hn
      rw [hn, ih fun m hm => hclass m (List.mem_cons_of_mem n hm)]
      rfl
  have hrun (st : Composing) (hstarter : ∀ a, st.starter = some a → a ∈ codes)
      (hmarks : st.marks = []) (rest : List Nat) (hrest : ∀ n ∈ rest, n ∈ codes) :
      ((rest.map fun n => (n, 0)).foldl Composing.put st).all = rest.reverse ++ st.all := by
    induction rest generalizing st with
    | nil => rfl
    | cons n rest ih =>
      have hn := hrest n List.mem_cons_self
      have hput : st.put (n, 0) = ⟨st.all, some n, []⟩ := by
        rw [Composing.put_eq]
        cases ha : st.starter with
        | none => rfl
        | some a => simp [hpair a (hstarter a ha) n hn]
      rw [List.map_cons, List.foldl_cons, hput, ih _ ?_ rfl fun m hm => hrest m (List.mem_cons_of_mem n hm)]
      · simp [Composing.all]
      · intro a ha
        cases ha
        exact hn
  rw [recompose, hsorted, hrun _ (by simp) rfl codes fun _ hn => hn]
  simp [Composing.all]

/-- The text below Latin-1 letters, which composition leaves alone at once, is no exception. -/
theorem compose_eq (s : List Char) :
    compose s = (recompose (sortMarks (decomposeAll s))).reverse.map Char.ofNat := by
  rw [compose]
  split
  next hsmall =>
    have hcodes : decomposeAll s = s.map Char.toNat := by
      rw [decomposeAll, List.map_eq_flatMap]
      refine List.flatMap_congr fun c hc => ?_
      have := List.all_eq_true.mp hsmall c hc
      rw [decompose, if_pos (by simpa using this)]
    have hlow : ∀ n ∈ s.map Char.toNat, n < 0xC0 := by
      intro n hn
      obtain ⟨c, hc, rfl⟩ := List.mem_map.mp hn
      simpa using List.all_eq_true.mp hsmall c hc
    have hinert : ∀ a ∈ s.map Char.toNat, ∀ b ∈ s.map Char.toNat, composePair? a b = none := by
      intro a _ b hb
      cases hpair : composePair? a b with
      | none => rfl
      | some c =>
        have := (composePair?_spec hpair).2.2.1
        have := hlow b hb
        omega
    rw [hcodes, recompose_of_inert (fun n hn => combiningClass_eq_zero (.inl (hlow n hn))) hinert,
      List.map_map]
    exact (List.map_id'' (fun c => Char.ofNat_toNat c) s).symm
  next => rfl

/-- The code points of a decomposed text are decomposed fully, and those of characters. -/
theorem of_mem_decomposeAll {s : List Char} {m : Nat} (h : m ∈ decomposeAll s) :
    decompose m = [m] ∧ m.isValidChar ∧ (m = '.'.toNat → '.' ∈ s) := by
  obtain ⟨c, hc, hm⟩ := List.mem_flatMap.mp h
  obtain ⟨hfull, hvalid, hdot⟩ := decompose_of_mem_decompose hm
  exact ⟨hfull, hvalid c.valid, fun heq => Char.toNat_inj.mp (hdot heq) ▸ hc⟩

/-- A character of a composed text is a part of the text's or lies beyond Latin-1. -/
theorem mem_compose {s : List Char} {c : Char} (h : c ∈ compose s) :
    (∃ d ∈ s, c.toNat ∈ decompose d.toNat) ∨ 0xC0 ≤ c.toNat := by
  rw [compose_eq] at h
  obtain ⟨m, hm, rfl⟩ := List.mem_map.mp h
  rcases mem_recompose (List.mem_reverse.mp hm) with ⟨p, hp, rfl⟩ | ⟨a, b, hpair⟩
  · have hmem := (mem_sortMarks hp).2
    rw [Utf8.toNat_ofNat (of_mem_decomposeAll hmem).2.1]
    exact .inl (List.mem_flatMap.mp hmem)
  · obtain ⟨-, hvalid, -, hlow, -⟩ := composePair?_spec hpair
    rw [Utf8.toNat_ofNat hvalid]
    exact .inr hlow

theorem dot_notMem_compose {s : List Char} (h : '.' ∉ s) : '.' ∉ compose s := by
  intro hdot
  rcases mem_compose hdot with ⟨d, hd, hm⟩ | hlow
  · have heq := (decompose_of_mem_decompose hm).2.2 rfl
    exact h (Char.toNat_inj.mp heq ▸ hd)
  · contradiction

/-- Composing what is composed changes nothing. -/
theorem compose_compose (s : List Char) : compose (compose s) = compose s := by
  have hvalid : ∀ m ∈ (recompose (sortMarks (decomposeAll s))).reverse, m.isValidChar := by
    intro m hm
    rcases mem_recompose (List.mem_reverse.mp hm) with ⟨p, hp, rfl⟩ | ⟨a, b, hpair⟩
    · exact (of_mem_decomposeAll (mem_sortMarks hp).2).2.1
    · exact (composePair?_spec hpair).2.1
  have hdecompose : decomposeAll (compose s) =
      (recompose (sortMarks (decomposeAll s))).reverse.flatMap decompose := by
    rw [compose_eq s, decomposeAll, List.flatMap_map]
    exact List.flatMap_congr fun m hm => by rw [Utf8.toNat_ofNat (hvalid m hm)]
  rw [compose_eq (compose s), hdecompose,
    sortMarks_recompose fun n hn => (of_mem_decomposeAll hn).1, ← compose_eq]

/-! ### Labels -/

/-- A text in composition behind a full stop, and the same text in composition on its own. -/
inductive Composing.Behind (base : List Nat) : Composing → Composing → Prop where
  | first (a : Composing) (finished : List Nat) (hstarter : a.starter = some '.'.toNat)
      (hall : a.all = finished ++ '.'.toNat :: base) : Behind base a ⟨finished, none, []⟩
  | later (finished : List Nat) (starter : Nat) (marks : List (Nat × Nat)) :
      Behind base ⟨finished ++ '.'.toNat :: base, some starter, marks⟩ ⟨finished, some starter, marks⟩

theorem composePair?_dot (n : Nat) : composePair? '.'.toNat n = none := by
  cases h : composePair? '.'.toNat n with
  | none => rfl
  | some c => exact absurd rfl (composePair?_spec h).2.2.2.2.1

theorem Composing.Behind.all_eq {base : List Nat} {a b : Composing} (h : Behind base a b) :
    a.all = b.all ++ '.'.toNat :: base := by
  cases h with
  | first a finished hstarter hall => rw [hall]; rfl
  | later finished starter marks => simp [Composing.all]

theorem Composing.Behind.put {base : List Nat} {a b : Composing} (h : Behind base a b)
    (p : Nat × Nat) : Behind base (a.put p) (b.put p) := by
  have hall := h.all_eq
  obtain ⟨n, k⟩ := p
  have hstart : Behind base ⟨a.all, some n, []⟩ ⟨b.all, some n, []⟩ := by
    rw [hall]
    exact .later _ _ _
  rw [put_eq, put_eq]
  cases h with
  | first a finished hstarter hfinished =>
    rw [hstarter]
    simp only [Option.bind_some, Option.bind_none, composePair?_dot, ite_self, Option.isNone_some,
      Option.isNone_none, if_true, Bool.false_eq_true, if_false]
    split
    · exact hstart
    · have hmark : all ⟨a.finished, some '.'.toNat, (n, k) :: a.marks⟩ = n :: a.all := by
        rw [all, all, hstarter]
        rfl
      exact .first _ _ rfl (hmark.trans (congrArg (n :: ·) hfinished))
  | later finished starter marks =>
    have hblocked : isBlocked ⟨finished ++ '.'.toNat :: base, some starter, marks⟩ k =
      isBlocked ⟨finished, some starter, marks⟩ k := rfl
    dsimp only
    rw [hblocked]
    generalize (some starter).bind _ = composed
    cases composed with
    | some c => exact .later _ _ _
    | none =>
      dsimp only
      split
      · exact hstart
      · exact .later _ _ _

/-- A full stop keeps what stands before it from composing with what follows. -/
theorem recompose_append (front rest : List (Nat × Nat)) :
    recompose (front ++ ('.'.toNat, 0) :: rest) =
      recompose rest ++ '.'.toNat :: recompose front := by
  rw [recompose, recompose, recompose, List.foldl_append, List.foldl_cons]
  generalize front.foldl Composing.put ⟨[], none, []⟩ = st
  have hput : st.put ('.'.toNat, 0) = ⟨st.all, some '.'.toNat, []⟩ := by
    rw [Composing.put_eq]
    cases ha : st.starter with
    | none => rfl
    | some a =>
      have hpair : composePair? a '.'.toNat = none := by
        cases h : composePair? a '.'.toNat with
        | none => rfl
        | some c => exact absurd (composePair?_spec h).2.2.1 (by decide)
      simp only [Option.bind_some, hpair, ite_self, if_true]
  have hrun (a b : Composing) (h : Composing.Behind st.all a b) :
      Composing.Behind st.all (rest.foldl Composing.put a) (rest.foldl Composing.put b) := by
    induction rest generalizing a b with
    | nil => exact h
    | cons p rest ih => exact ih _ _ (h.put p)
  rw [hput]
  exact (hrun _ _ (.first _ [] rfl rfl)).all_eq

theorem compose_append (front rest : List Char) :
    compose (front ++ '.' :: rest) = compose front ++ '.' :: compose rest := by
  have hdot : decompose '.'.toNat = ['.'.toNat] := if_pos (by decide)
  have hclass : combiningClass '.'.toNat = 0 := combiningClass_eq_zero (.inl (by decide))
  have hcodes : decomposeAll (front ++ '.' :: rest) =
      decomposeAll front ++ '.'.toNat :: decomposeAll rest := by
    rw [decomposeAll, List.flatMap_append, List.flatMap_cons, hdot]
    rfl
  rw [compose_eq, compose_eq, compose_eq, hcodes, sortMarks_append hclass, recompose_append]
  simp

theorem compose_join (labels : List (List Char)) :
    compose (join '.' labels) = join '.' (labels.map compose) := by
  induction labels with
  | nil => rfl
  | cons label labels ih =>
    cases labels with
    | nil => rfl
    | cons next labels =>
      rw [join, compose_append, ih]
      · rfl
      · simp

/-- The labels of a composed text are composed. -/
theorem compose_of_mem_split {s : List Char} (h : compose s = s) :
    ∀ label ∈ split '.' s, compose label = label := by
  have hfree : ∀ label ∈ (split '.' s).map compose, '.' ∉ label := by
    intro part hpart
    obtain ⟨label, hlabel, rfl⟩ := List.mem_map.mp hpart
    exact dot_notMem_compose (notMem_of_mem_split hlabel)
  have hparts : (split '.' s).map compose = split '.' s := by
    have hne : (split '.' s).map compose ≠ [] := by
      rw [ne_eq, List.map_eq_nil_iff]
      exact splitWhere_ne_nil _ s
    calc (split '.' s).map compose = split '.' (join '.' ((split '.' s).map compose)) :=
          (split_join hne hfree).symm
      _ = split '.' s := by rw [← compose_join, join_split, h]
  exact fun label hlabel => List.map_inj_left.mp (hparts.trans (List.map_id _).symm) label hlabel

end KeyApproval.Text.NormalForm
