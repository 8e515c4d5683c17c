import KeyApproval.Client.Call
import KeyApproval.Proofs.EncodedText
import Mathlib.Data.List.TakeWhile

/-!
# Where the paths of the protocol lead

The paths of the protocol are relative and made of segments that hold lower-case letters and digits only.
Such segments mean nothing to the URL parser, so they stand at the end of the joined URL as they are, and
the number of a request can be read off its URL.
-/

namespace KeyApproval.Url

/-! ### Plain characters -/

/-- A character without any meaning in a URL. -/
def isPlain (c : Char) : Bool := 'a' ≤ c && c ≤ 'z' || c.isDigit

theorem isPlain_of_isDigit {c : Char} (h : c.isDigit = true) : isPlain c = true := by
  simp [isPlain, h]

theorem toNat_of_isPlain {c : Char} (h : isPlain c = true) :
    (97 ≤ c.toNat ∧ c.toNat ≤ 122) ∨ (48 ≤ c.toNat ∧ c.toNat ≤ 57) := by
  simp only [isPlain, Bool.or_eq_true, Char.isDigit, Bool.and_eq_true, decide_eq_true_eq, ge_iff_le,
    Char.le_def, UInt32.le_iff_toNat_le] at h
  exact h

theorem ne_of_isPlain {c d : Char} (h : isPlain c = true) (hd : isPlain d = false) : c ≠ d := by
  rintro rfl
  exact Bool.false_ne_true (hd.symm.trans h)

theorem toLower_of_isPlain {c : Char} (h : isPlain c = true) : c.toLower = c := by
  have hbounds := toNat_of_isPlain h
  have hupper : ¬(c.val ≥ 'A'.val ∧ c.val ≤ 'Z'.val) := by
    simp only [ge_iff_le, UInt32.le_iff_toNat_le]
    change ¬(65 ≤ c.toNat ∧ c.toNat ≤ 90)
    omega
  unfold Char.toLower
  split
  · contradiction
  · rfl

/-- A segment of plain characters, which is no empty one. -/
def IsPlain (segment : List Char) : Prop := segment ≠ [] ∧ ∀ c ∈ segment, isPlain c = true

variable {segment : List Char}

theorem encodes_of_isPlain {c : Char} (h : isPlain c = true) : EncodingSet.path.encodes c = false := by
  have hbounds := toNat_of_isPlain h
  have hprintable : isUnprintable c = false := by
    simp only [isUnprintable, Bool.or_eq_false_iff, decide_eq_false_iff_not]
    omega
  have hfree : c ∉ EncodingSet.path.characters := by
    intro hmem
    have hall : EncodingSet.path.characters.all (fun d => !isPlain d) = true := by decide
    have := List.all_eq_true.mp hall c hmem
    simp [h] at this
  simp [EncodingSet.encodes, hprintable, hfree]

theorem isEncoded_of_isPlain (h : ∀ c ∈ segment, isPlain c = true) : EncodingSet.path.IsEncoded segment :=
  fun c hc => encodes_of_isPlain (h c hc)

theorem lower_of_isPlain (h : ∀ c ∈ segment, isPlain c = true) : Text.lower segment = segment :=
  (List.map_congr_left fun c hc => toLower_of_isPlain (h c hc)).trans (List.map_id' segment)

theorem head_of_isPlain (h : IsPlain segment) :
    ∃ c rest, segment = c :: rest ∧ isPlain c = true := by
  obtain ⟨c, rest, rfl⟩ := List.exists_cons_of_ne_nil h.1
  exact ⟨c, rest, rfl, h.2 c List.mem_cons_self⟩

theorem isSingleDot_of_isPlain (h : IsPlain segment) : isSingleDot segment = false := by
  obtain ⟨c, rest, hsegment, hc⟩ := head_of_isPlain h
  have hdot := ne_of_isPlain hc (d := '.') (by decide)
  have hpercent := ne_of_isPlain hc (d := '%') (by decide)
  rw [isSingleDot, lower_of_isPlain h.2, hsegment]
  simp [hdot, hpercent]

theorem isDoubleDot_of_isPlain (h : IsPlain segment) : isDoubleDot segment = false := by
  obtain ⟨c, rest, hsegment, hc⟩ := head_of_isPlain h
  have hdot := ne_of_isPlain hc (d := '.') (by decide)
  have hpercent := ne_of_isPlain hc (d := '%') (by decide)
  rw [isDoubleDot, lower_of_isPlain h.2, hsegment]
  simp [← String.toList_inj, hdot, hpercent]

theorem isDriveLetter_of_isPlain (h : ∀ c ∈ segment, isPlain c = true) :
    isDriveLetter segment = false := by
  unfold isDriveLetter
  split
  next letter mark =>
    have hmark := h mark (by simp)
    have hcolon := ne_of_isPlain hmark (d := ':') (by decide)
    have hbar := ne_of_isPlain hmark (d := '|') (by decide)
    simp [hcolon, hbar]
  next => rfl

/-! ### Paths of plain segments -/

variable {segments : List (List Char)}

theorem isSlashOf_of_isPlain {kind : SchemeKind} (h : ∀ s ∈ segments, IsPlain s) :
    ∀ s ∈ segments, ∀ c ∈ s, isSlashOf kind c = false := by
  intro s hs c hc
  have hplain := (h s hs).2 c hc
  have hfront := ne_of_isPlain hplain (d := '/') (by decide)
  have hback := ne_of_isPlain hplain (d := '\\') (by decide)
  simp [isSlashOf, hfront, hback]

theorem isDotless_of_isPlain (h : ∀ s ∈ segments, IsPlain s) : ∀ s ∈ segments, IsDotless s :=
  fun s hs => ⟨isSingleDot_of_isPlain (h s hs), isDoubleDot_of_isPlain (h s hs)⟩

theorem encodedSegments_of_isPlain (kind : SchemeKind) (hne : segments ≠ [])
    (h : ∀ s ∈ segments, IsPlain s) : encodedSegments kind (Text.join '/' segments) = segments :=
  encodedSegments_join hne (isSlashOf_of_isPlain h) fun s hs => isEncoded_of_isPlain (h s hs).2

theorem readBelow_of_isPlain (kind : SchemeKind) (front : List String) (hne : segments ≠ [])
    (h : ∀ s ∈ segments, IsPlain s) :
    readBelow kind front (Text.join '/' segments) = .segments (front ++ segments.map String.ofList) :=
  readBelow_join front hne (isSlashOf_of_isPlain h) (fun s hs => isEncoded_of_isPlain (h s hs).2)
    (isDotless_of_isPlain h)

/-! ### Joining -/

theorem mem_join_of_isPlain (h : ∀ s ∈ segments, IsPlain s) {c : Char}
    (hc : c ∈ Text.join '/' segments) : isPlain c = true ∨ c = '/' := by
  rcases Text.mem_join hc with hslash | ⟨s, hs, hcs⟩
  · exact .inr hslash
  · exact .inl ((h s hs).2 c hcs)

theorem notMem_join_of_isPlain (h : ∀ s ∈ segments, IsPlain s) {d : Char}
    (hd : isPlain d = false) (hslash : d ≠ '/') : d ∉ Text.join '/' segments := by
  intro hmem
  rcases mem_join_of_isPlain h hmem with hplain | heq
  · exact Bool.false_ne_true (hd.symm.trans hplain)
  · exact hslash heq

theorem join_eq_cons_of_isPlain (hne : segments ≠ []) (h : ∀ s ∈ segments, IsPlain s) :
    ∃ c rest, Text.join '/' segments = c :: rest ∧ isPlain c = true := by
  obtain ⟨s, more, rfl⟩ := List.exists_cons_of_ne_nil hne
  obtain ⟨c, rest, rfl, hc⟩ := head_of_isPlain (h s List.mem_cons_self)
  cases more with
  | nil => exact ⟨c, rest, rfl, hc⟩
  | cons t more => exact ⟨c, rest ++ '/' :: Text.join '/' (t :: more), rfl, hc⟩

theorem clean_of_isPlain {s : String} (hs : s.toList = Text.join '/' segments)
    (h : ∀ s ∈ segments, IsPlain s) : clean s = Text.join '/' segments := by
  rw [← hs]
  refine clean_of_visible fun c hc => ?_
  rw [hs] at hc
  rcases mem_join_of_isPlain h hc with hplain | rfl
  · have hbounds := toNat_of_isPlain hplain
    omega
  · decide

theorem splitScheme_of_isPlain (h : ∀ s ∈ segments, IsPlain s) :
    splitScheme (Text.join '/' segments) = none := by
  rw [splitScheme, Text.splitFirst_of_notMem (notMem_join_of_isPlain h (by decide) (by decide))]

theorem endsPath_of_isPlain (h : ∀ s ∈ segments, IsPlain s) :
    ∀ c ∈ Text.join '/' segments, (!endsPath c) = true := by
  intro c hc
  have hquery : c ≠ '?' := fun e => notMem_join_of_isPlain h (by decide) (by decide) (e ▸ hc)
  have hmark : c ≠ '#' := fun e => notMem_join_of_isPlain h (by decide) (by decide) (e ▸ hc)
  simp [endsPath, hquery, hmark]

theorem takeWhile_endsPath_of_isPlain (h : ∀ s ∈ segments, IsPlain s) :
    (Text.join '/' segments).takeWhile (!endsPath ·) = Text.join '/' segments :=
  List.takeWhile_eq_self_iff.mpr (endsPath_of_isPlain h)

theorem dropWhile_endsPath_of_isPlain (h : ∀ s ∈ segments, IsPlain s) :
    (Text.join '/' segments).dropWhile (!endsPath ·) = [] :=
  List.dropWhile_eq_nil_iff.mpr (endsPath_of_isPlain h)

theorem readRelative_of_isPlain (base : Url) (hne : segments ≠ []) (h : ∀ s ∈ segments, IsPlain s) :
    readRelative base (Text.join '/' segments) =
      .ok { base with
        path := .segments ((pathSegments base).dropLast ++ segments.map String.ofList)
        query := none
        fragment := none } := by
  obtain ⟨c, rest, hcons, hc⟩ := join_eq_cons_of_isPlain hne h
  have hslash : isSlash c = false := by
    simp [isSlash, ne_of_isPlain hc (d := '/') (by decide), ne_of_isPlain hc (d := '\\') (by decide)]
  have hread := readBelow_of_isPlain base.kind (pathSegments base).dropLast hne h
  unfold readRelative
  simp only [takeWhile_endsPath_of_isPlain h, dropWhile_endsPath_of_isPlain h, readTail, hread]
  rw [hcons]
  split
  · contradiction
  · next heq => exact absurd (List.cons.inj heq).1 (ne_of_isPlain hc (by decide))
  · next heq => exact absurd (List.cons.inj heq).1 (ne_of_isPlain hc (by decide))
  · next heq => exact absurd (List.cons.inj heq).1 (ne_of_isPlain hc (by decide))
  · next heq =>
      obtain ⟨rfl, rfl⟩ := List.cons.inj heq
      simp [hslash]

/-- Empty segments before plain ones may go, but the plain ones stay at the end. -/
theorem dropEmptyFront_append (front : List (List Char)) (hne : segments ≠ [])
    (h : ∀ s ∈ segments, IsPlain s) :
    ∃ kept, dropEmptyFront (front ++ segments) = kept ++ segments := by
  obtain ⟨s, more, rfl⟩ := List.exists_cons_of_ne_nil hne
  obtain ⟨c, rest, rfl, -⟩ := head_of_isPlain (h s List.mem_cons_self)
  induction front with
  | nil => exact ⟨[], by simp [dropEmptyFront]⟩
  | cons first front ih =>
    cases first with
    | cons d tail => exact ⟨(d :: tail) :: front, by simp [dropEmptyFront]⟩
    | nil =>
      obtain ⟨kept, hkept⟩ := ih
      refine ⟨kept, ?_⟩
      rw [← hkept]
      cases front <;> rfl

theorem readFilePath_of_isPlain (front : List String) (hne : segments ≠ [])
    (h : ∀ s ∈ segments, IsPlain s) :
    ∃ kept, (readFilePath front (Text.join '/' segments)).1 =
      .segments (kept ++ segments.map String.ofList) := by
  obtain ⟨s, more, rfl⟩ := List.exists_cons_of_ne_nil hne
  have hdrive : ((s :: more).head?.any isDriveLetter) = false :=
    isDriveLetter_of_isPlain (h s List.mem_cons_self).2
  obtain ⟨kept, hkept⟩ := dropEmptyFront_append (front.map (·.toList)) hne h
  refine ⟨kept.map String.ofList, ?_⟩
  simp only [readFilePath, encodedSegments_of_isPlain .file hne h, hdrive, Bool.and_false,
    addSegments_of_isDotless _ (isDotless_of_isPlain h), List.reverse_append, List.reverse_reverse, hkept,
    List.map_append]

theorem readFile_of_isPlain {base u : Url} (hne : segments ≠ []) (h : ∀ s ∈ segments, IsPlain s)
    (hu : readFile (some base) (Text.join '/' segments) = .ok u) :
    ∃ front, u.path = .segments (front ++ segments.map String.ofList) := by
  obtain ⟨c, rest, hcons, hc⟩ := join_eq_cons_of_isPlain hne h
  have hslash : isSlash c = false := by
    simp [isSlash, ne_of_isPlain hc (d := '/') (by decide), ne_of_isPlain hc (d := '\\') (by decide)]
  have hquery := ne_of_isPlain hc (d := '?') (by decide)
  have hmark := ne_of_isPlain hc (d := '#') (by decide)
  rw [hcons] at hu
  unfold readFile at hu
  simp only [hslash, Bool.false_eq_true, if_false, beq_eq_false_iff_ne.mpr hquery,
    beq_eq_false_iff_ne.mpr hmark, ← hcons, takeWhile_endsPath_of_isPlain h] at hu
  split at hu <;> cases hu <;> exact readFilePath_of_isPlain _ hne h

theorem join_of_isPlain (base : Url) {s : String} (hs : s.toList = Text.join '/' segments)
    (hne : segments ≠ []) (h : ∀ s ∈ segments, IsPlain s) :
    base.join s =
      if base.cannotBeBase then .error .baseCannotBeBase
      else if base.kind == .file then readFile (some base) (Text.join '/' segments)
      else readRelative base (Text.join '/' segments) := by
  obtain ⟨c, rest, hcons, hc⟩ := join_eq_cons_of_isPlain hne h
  have hmark := ne_of_isPlain hc (d := '#') (by decide)
  rw [join, clean_of_isPlain hs h, readAgainst, splitScheme_of_isPlain h]
  simp [hcons, hmark]

theorem join_of_special {base : Url} (hkind : base.kind = .special)
    (hauthority : base.authority.isSome = true) {s : String} (hs : s.toList = Text.join '/' segments)
    (hne : segments ≠ []) (h : ∀ s ∈ segments, IsPlain s) :
    base.join s = .ok { base with
      path := .segments ((pathSegments base).dropLast ++ segments.map String.ofList)
      query := none
      fragment := none } := by
  obtain ⟨a, ha⟩ := Option.isSome_iff_exists.mp hauthority
  have hbase : base.cannotBeBase = false := by simp [cannotBeBase, ha]
  rw [join_of_isPlain base hs hne h, hbase, hkind]
  exact readRelative_of_isPlain base hne h

/-- Whatever the base is, a joined URL ends with the segments of the path. -/
theorem path_of_join {base u : Url} {s : String} (hs : s.toList = Text.join '/' segments)
    (hne : segments ≠ []) (h : ∀ s ∈ segments, IsPlain s) (hu : base.join s = .ok u) :
    ∃ front, u.path = .segments (front ++ segments.map String.ofList) := by
  rw [join_of_isPlain base hs hne h] at hu
  split at hu
  · contradiction
  · split at hu
    · exact readFile_of_isPlain hne h hu
    · rw [readRelative_of_isPlain base hne h] at hu
      cases hu
      exact ⟨_, rfl⟩

end KeyApproval.Url

namespace KeyApproval.Client

open Url

/-! ### The paths of the protocol -/

theorem isPlain_digits (n : Nat) : IsPlain (toString n).toList := by
  rw [Nat.toString_eq_repr, Nat.toList_repr]
  refine ⟨Nat.toDigits_ne_nil, fun c hc => isPlain_of_isDigit ?_⟩
  exact Nat.isDigit_of_mem_toDigits (by decide) (by decide) hc

theorem isPlain_api : IsPlain "api".toList :=
  ⟨by decide, List.all_eq_true.mp (by decide)⟩

theorem isPlain_requests : IsPlain "requests".toList :=
  ⟨by decide, List.all_eq_true.mp (by decide)⟩

theorem toList_requestsPath :
    requestsPath.toList = Text.join '/' ["api".toList, "requests".toList] := by
  decide

theorem requestPath_eq (id : UInt64) : requestPath id = "api/requests/" ++ toString id.toNat := by
  have hfront : requestsPath ++ "/" = "api/requests/" := by decide
  rw [requestPath, hfront]

/-- The path of the request of a number. -/
theorem toList_numbered (n : Nat) : ("api/requests/" ++ toString n).toList =
    Text.join '/' ["api".toList, "requests".toList, (toString n).toList] := by
  rw [String.toList_append]
  rfl

theorem toList_requestPath (id : UInt64) :
    (requestPath id).toList =
      Text.join '/' ["api".toList, "requests".toList, (toString id.toNat).toList] := by
  rw [requestPath_eq]
  exact toList_numbered id.toNat

theorem isPlain_requestsPath : ∀ s ∈ ["api".toList, "requests".toList], IsPlain s :=
  List.forall_mem_cons.mpr ⟨isPlain_api, List.forall_mem_singleton.mpr isPlain_requests⟩

theorem isPlain_numbered (n : Nat) :
    ∀ s ∈ ["api".toList, "requests".toList, (toString n).toList], IsPlain s :=
  List.forall_mem_cons.mpr ⟨isPlain_api, List.forall_mem_cons.mpr
    ⟨isPlain_requests, List.forall_mem_singleton.mpr (isPlain_digits n)⟩⟩

end KeyApproval.Client

namespace KeyApproval.Url

/-- The path ends in the segments of the request of that number. -/
def NamesRequest (u : Url) (id : UInt64) : Prop :=
  ∃ front, u.path = .segments (front ++ ["api", "requests", toString id.toNat])

theorem namesRequest_of_join {base u : Url} {id : UInt64}
    (h : base.join (Client.requestPath id) = .ok u) : u.NamesRequest id := by
  obtain ⟨front, hfront⟩ := path_of_join (Client.toList_requestPath id) (List.cons_ne_nil _ _)
    (Client.isPlain_numbered id.toNat) h
  simp only [List.map_cons, List.map_nil, String.ofList_toList] at hfront
  exact ⟨front, hfront⟩

theorem NamesRequest.unique {u : Url} {m n : UInt64} (hm : u.NamesRequest m)
    (hn : u.NamesRequest n) : m = n := by
  obtain ⟨front, hfront⟩ := hm
  obtain ⟨front', hfront'⟩ := hn
  have hlist := Path.segments.inj (hfront.symm.trans hfront')
  have hlast := congrArg List.getLast? hlist
  simp only [List.getLast?_append, List.getLast?_cons_cons, List.getLast?_singleton,
    Option.some_or, Option.some.injEq] at hlast
  exact UInt64.toNat_inj.mp (Text.toString_injective hlast)

end KeyApproval.Url
