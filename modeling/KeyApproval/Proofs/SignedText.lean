import KeyApproval.Signing

/-!
# What a signature covers

The signed text has neither lengths nor quotes: header lines and a body stand one after the other, and a
body may look like one more line. The announced names tell where the body begins, because there are as many
lines as names. A line is read back from its first colon, which no name holds, and its line feed, which no
value may hold.
-/

namespace KeyApproval

namespace Text

theorem splitFirst_inj {separator : Char} {s t rest rest' : List Char} (hs : separator ∉ s)
    (ht : separator ∉ t) (h : s ++ separator :: rest = t ++ separator :: rest') :
    s = t ∧ rest = rest' := by
  have hsplit := congrArg (splitFirst separator) h
  rw [splitFirst_append hs, splitFirst_append ht] at hsplit
  exact Prod.mk.inj (Option.some.inj hsplit)

theorem join_eq_nil_iff {separator : Char} {parts : List (List Char)}
    (hparts : ∀ part ∈ parts, part ≠ []) : join separator parts = [] ↔ parts = [] := by
  cases parts with
  | nil => exact iff_of_true rfl rfl
  | cons part rest =>
    refine iff_of_false (fun h => ?_) (List.cons_ne_nil part rest)
    have hpart := hparts part List.mem_cons_self
    cases rest with
    | nil => exact hpart h
    | cons next more => exact hpart (List.append_eq_nil_iff.mp h).1

/-- Nonempty parts without separators are read back from the text that joins them. -/
theorem join_inj {separator : Char} {parts parts' : List (List Char)}
    (hparts : ∀ part ∈ parts, part ≠ [] ∧ separator ∉ part)
    (hparts' : ∀ part ∈ parts', part ≠ [] ∧ separator ∉ part)
    (h : join separator parts = join separator parts') : parts = parts' := by
  have hnil : join separator parts = [] ↔ parts = [] :=
    join_eq_nil_iff fun part hp => (hparts part hp).1
  have hnil' : join separator parts' = [] ↔ parts' = [] :=
    join_eq_nil_iff fun part hp => (hparts' part hp).1
  by_cases hne : parts = []
  · rw [hne, hnil'.mp (h.symm.trans (hnil.mpr hne))]
  · have hne' : parts' ≠ [] := fun he => hne (hnil.mp (h.trans (hnil'.mpr he)))
    rw [← split_join hne fun part hp => (hparts part hp).2, h,
      split_join hne' fun part hp => (hparts' part hp).2]

theorem eq_space_of_toLower {c : Char} (h : c.toLower = ' ') : c = ' ' := by
  unfold Char.toLower at h
  split at h
  · next hupper =>
    -- a letter becomes a letter
    have hnat := congrArg Char.toNat h
    obtain ⟨hlow, hhigh⟩ := hupper
    simp only [ge_iff_le, UInt32.le_iff_toNat_le] at hlow hhigh
    change 65 ≤ c.val.toNat at hlow
    change c.val.toNat ≤ 90 at hhigh
    change (c.val + 32).toNat = 32 at hnat
    rw [UInt32.toNat_add] at hnat
    have hval : (32 : UInt32).toNat = 32 := rfl
    omega
  · exact h

end Text

namespace Http

variable {name : String}

theorem IsName.notMem (h : IsName name) {c : Char} (hc : isNameChar c = false) : c ∉ name.toList :=
  fun hmem => Bool.false_ne_true (hc.symm.trans (h.2 c hmem))

theorem IsName.space_notMem_lower (h : IsName name) : ' ' ∉ Text.lower name.toList := by
  intro hmem
  obtain ⟨c, hc, hlower⟩ := List.mem_map.mp hmem
  exact h.notMem (by decide) (Text.eq_space_of_toLower hlower ▸ hc)

theorem IsName.lower_ne_nil (h : IsName name) : Text.lower name.toList ≠ [] := by
  intro hnil
  exact h.1 (String.toList_eq_nil_iff.mp (List.map_eq_nil_iff.mp hnil))

end Http

namespace Signing

open Http

/-! ### The announced names -/

/-- The names as they are announced, one for each header. -/
def announced (l : Headers) : List (List Char) := l.toList.map fun h => Text.lower h.name.toList

theorem announced_spec (l : Headers) : ∀ part ∈ announced l, part ≠ [] ∧ ' ' ∉ part := by
  intro part hpart
  obtain ⟨h, hh, rfl⟩ := List.mem_map.mp hpart
  have hname := l.names_valid h hh
  exact ⟨hname.lower_ne_nil, hname.space_notMem_lower⟩

theorem announced_eq_of_canonicalNames_eq {l l' : Headers} (h : canonicalNames l = canonicalNames l') :
    announced l = announced l' :=
  Text.join_inj (announced_spec l) (announced_spec l') (String.ofList_injective h)

/-! ### The lines -/

/-- The characters of the lines and of what follows them. -/
def spell (hs : List Header) (rest : List Char) : List Char :=
  hs.foldr (fun h rest => h.name.toList ++ ':' :: ' ' :: (h.value.toList ++ '\n' :: rest)) rest

theorem toList_signedText (l : Headers) (body : Option String) :
    (signedText l body).toList = spell l.toList (body.getD "").toList := by
  unfold signedText spell
  induction l.toList with
  | nil => rfl
  | cons h hs ih =>
    rw [List.foldr_cons, List.foldr_cons, ← ih]
    simp [Header.line, String.toList_append]

variable {h k : Header} {hs ks : List Header} {rest rest' : List Char}

theorem spell_cons : spell (h :: hs) rest =
    h.name.toList ++ ':' :: ' ' :: (h.value.toList ++ '\n' :: spell hs rest) := rfl

/-- The first line is read back whatever stands behind it. -/
theorem spell_cons_inj (hname : IsName h.name) (kname : IsName k.name)
    (hvalue : '\n' ∉ h.value.toList) (kvalue : '\n' ∉ k.value.toList)
    (heq : spell (h :: hs) rest = spell (k :: ks) rest') : h = k ∧ spell hs rest = spell ks rest' := by
  rw [spell_cons, spell_cons] at heq
  obtain ⟨hnames, hafter⟩ := Text.splitFirst_inj (hname.notMem (by decide)) (kname.notMem (by decide)) heq
  obtain ⟨hvalues, hlater⟩ := Text.splitFirst_inj hvalue kvalue (List.tail_eq_of_cons_eq hafter)
  refine ⟨?_, hlater⟩
  cases h
  cases k
  rw [Header.mk.injEq]
  exact ⟨String.toList_inj.mp hnames, String.toList_inj.mp hvalues⟩

/-- As many lines on both sides are the same lines, and the same text stands behind them. -/
theorem spell_inj (hlength : hs.length = ks.length) (hnames : ∀ h ∈ hs, IsName h.name)
    (knames : ∀ k ∈ ks, IsName k.name) (hvalues : ∀ h ∈ hs, '\n' ∉ h.value.toList)
    (kvalues : ∀ k ∈ ks, '\n' ∉ k.value.toList) (heq : spell hs rest = spell ks rest') :
    hs = ks ∧ rest = rest' := by
  induction hs generalizing ks with
  | nil =>
    obtain rfl := List.eq_nil_of_length_eq_zero hlength.symm
    exact ⟨rfl, heq⟩
  | cons h hs ih =>
    cases ks with
    | nil => contradiction
    | cons k ks =>
      simp only [List.forall_mem_cons] at hnames knames hvalues kvalues
      obtain ⟨rfl, hlater⟩ := spell_cons_inj hnames.1 knames.1 hvalues.1 kvalues.1 heq
      obtain ⟨rfl, hrest⟩ :=
        ih (Nat.succ.inj hlength) hnames.2 knames.2 hvalues.2 kvalues.2 hlater
      exact ⟨rfl, hrest⟩

/-- The announced names and the signed text determine the headers and the body, when no value holds a line
feed. -/
theorem eq_of_signedText_eq {l l' : Headers} {body body' : Option String}
    (hvalues : ∀ h ∈ l.toList, '\n' ∉ h.value.toList)
    (hvalues' : ∀ h ∈ l'.toList, '\n' ∉ h.value.toList)
    (hnames : canonicalNames l = canonicalNames l')
    (htext : signedText l body = signedText l' body') :
    l = l' ∧ body.getD "" = body'.getD "" := by
  have hlength : l.toList.length = l'.toList.length := by
    have hannounced := congrArg List.length (announced_eq_of_canonicalNames_eq hnames)
    rwa [announced, announced, List.length_map, List.length_map] at hannounced
  have hspell := congrArg String.toList htext
  rw [toList_signedText, toList_signedText] at hspell
  obtain ⟨hlists, hbodies⟩ :=
    spell_inj hlength l.names_valid l'.names_valid hvalues hvalues' hspell
  refine ⟨?_, String.toList_inj.mp hbodies⟩
  cases l
  cases l'
  cases hlists
  rfl

/-- A list that was built header by header and one that was built at once, without a body and with an
empty one. -/
theorem eq_of_signedText_eq_built :
    let date : Header := ⟨"Date", "Sun, 10 Jul 2022 09:41:29 GMT"⟩
    let accept : Header := ⟨"aCCept", "a: b, c"⟩
    let l : Headers := (Headers.empty.append date isName_date).append accept (by decide)
    let l' : Headers := ⟨[date, accept], by decide⟩
    (∀ h ∈ l.toList, '\n' ∉ h.value.toList) ∧ (∀ h ∈ l'.toList, '\n' ∉ h.value.toList) ∧
      canonicalNames l = canonicalNames l' ∧ signedText l none = signedText l' (some "") ∧
      l = l' ∧ (none : Option String).getD "" = (some "").getD "" := by
  intro date accept l l'
  have hvalues : ∀ h ∈ [date, accept], '\n' ∉ h.value.toList := by decide
  exact ⟨hvalues, hvalues, rfl, rfl, eq_of_signedText_eq hvalues hvalues rfl rfl⟩

/-- Without the names a body passes for a header line. -/
example : signedText ⟨[⟨"Date", "now"⟩], by decide⟩ (some "Accept: all\n") =
    signedText ⟨[⟨"Date", "now"⟩, ⟨"Accept", "all"⟩], by decide⟩ none := by
  decide

end Signing

end KeyApproval
