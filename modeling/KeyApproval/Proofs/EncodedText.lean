import KeyApproval.Url.Parser

/-!
# Encoded text

What percent encoding has written holds no character that it would encode, so that encoding it again changes
nothing. Segments that are encoded and are no dots stay as they are when they are read as a path.
-/

namespace KeyApproval.Url

open Text

/-! ### Cleaning -/

/-- Text without blanks and controls is clean. -/
theorem clean_of_visible {s : String} (h : ∀ c ∈ s.toList, 0x20 < c.toNat) : clean s = s.toList := by
  have hkept {l : List Char} (hl : ∀ c ∈ l, 0x20 < c.toNat) : l.dropWhile isTrimmed = l := by
    cases l with
    | nil => rfl
    | cons c rest =>
      have hc : isTrimmed c = false := by
        simpa [isTrimmed] using hl c List.mem_cons_self
      rw [List.dropWhile_cons, hc]
      rfl
  have hignored : ∀ c ∈ s.toList, (!isIgnored c) = true := by
    intro c hc
    have hfree : ∀ d ∈ ['\t', '\n', '\r'], c ≠ d := by
      intro d hd heq
      have hlow : ['\t', '\n', '\r'].all (fun d => d.toNat ≤ 0x20) = true := by decide
      have := List.all_eq_true.mp hlow d hd
      rw [← heq, decide_eq_true_iff] at this
      exact Nat.not_lt.mpr this (h c hc)
    simp [isIgnored, hfree]
  rw [clean, hkept h, dropEndWhile, hkept fun c hc => h c (List.mem_reverse.mp hc), List.reverse_reverse,
    List.filter_eq_self]
  exact hignored

/-! ### Encoding -/

variable {set : EncodingSet} {s : List Char}

def EncodingSet.IsEncoded (set : EncodingSet) (s : List Char) : Prop := ∀ c ∈ s, set.encodes c = false

theorem percentEncode_of_isEncoded (h : set.IsEncoded s) : percentEncode set s = s := by
  induction s with
  | nil => rfl
  | cons c rest ih =>
    have hrest := ih fun d hd => h d (List.mem_cons_of_mem c hd)
    rw [percentEncode] at hrest ⊢
    rw [List.flatMap_cons, h c List.mem_cons_self, hrest]
    rfl

theorem mem_percentEncode {c : Char} (h : c ∈ percentEncode set s) :
    c ∈ '%' :: Hex.upperDigits ∨ (c ∈ s ∧ set.encodes c = false) := by
  obtain ⟨d, hd, hc⟩ := List.mem_flatMap.mp h
  split at hc
  next =>
    left
    obtain ⟨b, -, hb⟩ := List.mem_flatMap.mp hc
    rw [encodeByte, List.mem_cons] at hb
    exact List.mem_cons.mpr (hb.imp_right Hex.mem_upperDigits)
  next hkept =>
    rw [List.mem_singleton.mp hc]
    exact .inr ⟨hd, Bool.eq_false_iff.mpr hkept⟩

/-- Whether a set lets what encoding writes stand. -/
def EncodingSet.isProper (set : EncodingSet) : Bool := ('%' :: Hex.upperDigits).all (!set.encodes ·)

theorem isEncoded_percentEncode (hset : set.isProper = true) (s : List Char) :
    set.IsEncoded (percentEncode set s) := by
  intro c hc
  rcases mem_percentEncode hc with hdigit | ⟨-, hkept⟩
  · simpa using List.all_eq_true.mp hset c hdigit
  · exact hkept

theorem lt_toNat_of_encodes {c : Char} (hspace : set.encodes ' ' = true) (h : set.encodes c = false) :
    0x20 < c.toNat := by
  have hlow : ¬c.toNat < 0x20 := by
    simp only [EncodingSet.encodes, isUnprintable, Bool.or_eq_false_iff, decide_eq_false_iff_not] at h
    exact h.1.1
  have hne : c.toNat ≠ 0x20 := by
    intro heq
    have hc : c = ' ' := Char.toNat_inj.mp heq
    rw [hc, hspace] at h
    contradiction
  omega

def IsDotless (segment : List Char) : Prop := isSingleDot segment = false ∧ isDoubleDot segment = false

variable {segments : List (List Char)}

theorem encodedSegments_join {kind : SchemeKind} (hne : segments ≠ [])
    (hslash : ∀ s ∈ segments, ∀ c ∈ s, isSlashOf kind c = false)
    (hencoded : ∀ s ∈ segments, EncodingSet.path.IsEncoded s) :
    encodedSegments kind (Text.join '/' segments) = segments := by
  rw [encodedSegments, splitWhere_join (by simp [isSlashOf]) hne hslash]
  exact (List.map_congr_left fun s hs => percentEncode_of_isEncoded (hencoded s hs)).trans
    (List.map_id' segments)

/-- Segments that are no dots are added to a path one after the other. -/
theorem addSegments_of_isDotless (path : List (List Char)) (h : ∀ s ∈ segments, IsDotless s) :
    addSegments path segments = segments.reverse ++ path := by
  induction segments generalizing path with
  | nil => rw [addSegments]; rfl
  | cons s rest ih =>
    obtain ⟨hsingle, hdouble⟩ := h s List.mem_cons_self
    rw [addSegments]
    simp only [hsingle, hdouble, Bool.false_eq_true, if_false, Bool.or_self, Bool.and_false]
    rw [ih (s :: path) fun t ht => h t (List.mem_cons_of_mem s ht)]
    simp

theorem readBelow_join {kind : SchemeKind} (front : List String) (hne : segments ≠ [])
    (hslash : ∀ s ∈ segments, ∀ c ∈ s, isSlashOf kind c = false)
    (hencoded : ∀ s ∈ segments, EncodingSet.path.IsEncoded s) (hdots : ∀ s ∈ segments, IsDotless s) :
    readBelow kind front (Text.join '/' segments) = .segments (front ++ segments.map String.ofList) := by
  rw [readBelow, encodedSegments_join hne hslash hencoded, addSegments_of_isDotless _ hdots]
  simp [Function.comp_def]

end KeyApproval.Url
