import KeyApproval.Proofs.UrlRoundTrip

/-!
# Names that become too long

A name of ideographs has an ASCII form as long as it has at most a thousand characters. If the characters
stand in order and far apart, almost every one of them takes three digits in Punycode, and the form becomes
too long to be read again.
-/

namespace KeyApproval.Domain.Punycode

/-! ### The length of Punycode -/

theorem encodeNumber_ne_nil (bias place n : Nat) : encodeNumber bias place n ≠ [] := by
  rw [encodeNumber]
  split <;> simp

/-- A number from 911 on has three digits at least, whatever the bias. -/
theorem length_encodeNumber (bias place : Nat) {n : Nat} (h : 911 ≤ n) :
    3 ≤ (encodeNumber bias place n).length := by
  have hfirst := threshold_bounds place bias
  have hsecond := threshold_bounds (place + 36) bias
  have hrest : 26 ≤ (n - threshold place bias) / (36 - threshold place bias) := by
    rw [Nat.le_div_iff_mul_le (by omega)]
    omega
  have hlast := List.length_pos_of_ne_nil (encodeNumber_ne_nil bias (place + 36 + 36)
    (((n - threshold place bias) / (36 - threshold place bias) - threshold (place + 36) bias) /
      (36 - threshold (place + 36) bias)))
  rw [encodeNumber, if_neg (by omega), List.length_cons, encodeNumber, if_neg (by omega),
    List.length_cons]
  omega

theorem foldl_pass_of_lt {basic code : Nat} {l : List Nat} (h : ∀ n ∈ l, n < code) (e : Encoding) :
    l.foldl (Encoding.pass basic code) e = { e with delta := e.delta + l.length } := by
  induction l generalizing e with
  | nil => rfl
  | cons n l ih =>
    rw [List.foldl_cons, Encoding.pass, if_pos (h n List.mem_cons_self),
      ih fun m hm => h m (List.mem_cons_of_mem n hm), List.length_cons]
    simp only [Encoding.mk.injEq, true_and, and_true]
    omega

theorem foldl_pass_of_gt {basic code : Nat} {l : List Nat} (h : ∀ n ∈ l, code < n) (e : Encoding) :
    l.foldl (Encoding.pass basic code) e = e := by
  induction l with
  | nil => rfl
  | cons n l ih =>
    have hn := h n List.mem_cons_self
    rw [List.foldl_cons, Encoding.pass, if_neg (by omega), if_neg (by omega)]
    exact ih fun m hm => h m (List.mem_cons_of_mem n hm)

/-- One pass over a text in order inserts the one character of the code. -/
theorem foldl_pass {basic code : Nat} {front rest : List Nat} (hfront : ∀ n ∈ front, n < code)
    (hrest : ∀ n ∈ rest, code < n) (e : Encoding) :
    (front ++ code :: rest).foldl (Encoding.pass basic code) e =
      ⟨e.output ++ encodeNumber e.bias 36 (e.delta + front.length), 0,
        adapt (e.delta + front.length) (e.handled + 1) (e.handled == basic), e.handled + 1⟩ := by
  rw [List.foldl_append, foldl_pass_of_lt hfront, List.foldl_cons, foldl_pass_of_gt hrest, Encoding.pass,
    if_neg (Nat.lt_irrefl _), if_pos rfl]

/-- Codes in order, far apart from each other. -/
def AreSpread (codes : List Nat) : Prop := codes.Pairwise fun a b => a + 20 ≤ b

/-- From the 46th character on, every one takes three digits at least. -/
theorem length_insertAll (front : List Nat) {rest : List Nat} {start : Nat} {e : Encoding}
    (hspread : AreSpread (front ++ rest)) (hstart : ∀ code ∈ rest, start + 19 ≤ code)
    (hhandled : e.handled = front.length) :
    e.output.length + 3 * (rest.length - (45 - front.length)) ≤
      (insertAll (front ++ rest) 0 start rest e).length := by
  induction rest generalizing front start e with
  | nil => simp [insertAll]
  | cons code rest ih =>
    obtain ⟨-, hcodes, hacross⟩ := List.pairwise_append.mp hspread
    have hafter := (List.pairwise_cons.mp hcodes).1
    have hgap := hstart code List.mem_cons_self
    have hbefore : ∀ n ∈ front, n < code := fun n hn => by
      have := hacross n hn code List.mem_cons_self
      omega
    have hbehind : ∀ n ∈ rest, code < n := fun n hn => by
      have := hafter n hn
      omega
    have hsplit : front ++ code :: rest = (front ++ [code]) ++ rest := by simp
    have hnext : ∀ n ∈ rest, code + 1 + 19 ≤ n := hafter
    rw [insertAll, foldl_pass hbefore hbehind]
    rw [hsplit] at hspread ⊢
    refine Nat.le_trans ?_ (ih (front ++ [code]) hspread hnext (by simp [hhandled]))
    dsimp only
    rw [List.length_append, List.length_append, List.length_singleton, List.length_cons]
    by_cases hfar : 45 ≤ front.length
    · have hdelta : 19 * (e.handled + 1) ≤ (code - start) * (e.handled + 1) :=
        Nat.mul_le_mul_right _ (by omega)
      have hdigits := length_encodeNumber e.bias 36
        (n := e.delta + (code - start) * (e.handled + 1) + front.length) (by omega)
      omega
    · omega

theorem eraseDups_of_nodup {l : List Nat} (h : l.Nodup) : l.eraseDups = l := by
  induction l with
  | nil => rfl
  | cons n l ih =>
    obtain ⟨hn, hl⟩ := List.nodup_cons.mp h
    have hfilter : l.filter (fun m => !m == n) = l := by
      refine List.filter_eq_self.mpr fun m hm => ?_
      have hne : m ≠ n := fun heq => hn (heq ▸ hm)
      simpa using hne
    rw [List.eraseDups_cons, hfilter, ih hl]

theorem encode_of_areSpread {s : List Char} (hspread : AreSpread (s.map Char.toNat))
    (hhigh : ∀ c ∈ s, 0x80 ≤ c.toNat) :
    encode s = insertAll (s.map Char.toNat) 0 0x80 (s.map Char.toNat) ⟨[], 0, 72, 0⟩ := by
  have hbasic : s.filter (fun c => c.toNat < 0x80) = [] := by
    refine List.filter_eq_nil_iff.mpr fun c hc => ?_
    simpa using hhigh c hc
  have hothers : s.filter (fun c => 0x80 ≤ c.toNat) = s :=
    List.filter_eq_self.mpr fun c hc => decide_eq_true (hhigh c hc)
  have hsorted : (s.map Char.toNat).mergeSort (· ≤ ·) = s.map Char.toNat := by
    refine List.mergeSort_of_pairwise (hspread.imp fun h => ?_)
    exact decide_eq_true (by omega)
  have hnodup : (s.map Char.toNat).Nodup := hspread.imp fun h => by omega
  rw [encode, hbasic, hothers, hsorted, eraseDups_of_nodup hnodup]
  rfl

/-- A spread text is long in Punycode. -/
theorem length_encode {s : List Char} (hspread : AreSpread (s.map Char.toNat))
    (hhigh : ∀ c ∈ s, 0x80 + 19 ≤ c.toNat) : 3 * (s.length - 45) ≤ (encode s).length := by
  have hstart : ∀ code ∈ s.map Char.toNat, 0x80 + 19 ≤ code := by
    simpa using hhigh
  have hlong := length_insertAll [] (e := ⟨[], 0, 72, 0⟩) hspread hstart rfl
  rw [encode_of_areSpread hspread fun c hc => Nat.le_trans (by decide) (hhigh c hc)]
  simpa using hlong

end KeyApproval.Domain.Punycode

namespace KeyApproval.Domain

open Text

/-! ### Names of ideographs -/

theorem isPlainLetter_of_isIdeograph {n : Nat} (h : NormalForm.isIdeograph n = true) :
    isPlainLetter n = true := by
  rw [isPlainLetter, h, Bool.or_true]

structure IsIdeographic (label : List Char) : Prop where
  ne_nil : label ≠ []
  ideographs : ∀ c ∈ label, NormalForm.isIdeograph c.toNat = true

namespace IsIdeographic

variable {label : List Char} (h : IsIdeographic label)

include h

theorem bounds : ∀ c ∈ label, 0x4E00 ≤ c.toNat ∧ c.toNat ≤ 0x9FFF := by
  intro c hc
  simpa [NormalForm.isIdeograph] using h.ideographs c hc

theorem isAscii_eq_false : isAscii label = false := by
  obtain ⟨c, rest, hcons⟩ := List.exists_cons_of_ne_nil h.ne_nil
  have hc := h.bounds c (hcons ▸ List.mem_cons_self)
  rw [← Bool.not_eq_true, isAscii_iff]
  intro hall
  have := hall c (hcons ▸ List.mem_cons_self)
  omega

theorem notMem_of_lt {d : Char} (hd : d.toNat < 0x4E00) : d ∉ label := fun hmem => by
  have := h.bounds d hmem
  omega

theorem compose_eq : NormalForm.compose label = label := by
  have hdecompose : NormalForm.decomposeAll label = label.map Char.toNat := by
    rw [NormalForm.decomposeAll, List.flatMap_congr fun c hc => decompose_of_isIdeograph (h.ideographs c hc)]
    exact List.flatMap_pure_eq_map Char.toNat label
  have hcodes : ∀ n ∈ label.map Char.toNat, NormalForm.isIdeograph n = true := by
    intro n hn
    obtain ⟨c, hc, rfl⟩ := List.mem_map.mp hn
    exact h.ideographs c hc
  have hclass : ∀ n ∈ label.map Char.toNat, combiningClass n = 0 := fun n hn =>
    combiningClass_eq_zero (.inr (hcodes n hn))
  have hpair : ∀ a ∈ label.map Char.toNat, ∀ b ∈ label.map Char.toNat,
      NormalForm.composePair? a b = none := by
    intro a ha b _
    cases hcompose : NormalForm.composePair? a b with
    | none => rfl
    | some c =>
      have hfalse := (NormalForm.composePair?_spec hcompose).2.2.2.2.2
      rw [hcodes a ha] at hfalse
      contradiction
  rw [NormalForm.compose_eq, hdecompose, NormalForm.recompose_of_inert hclass hpair, List.map_map]
  exact List.map_id'' (fun c => Char.ofNat_toNat c) label

theorem fold?_eq : fold? label = some label := by
  have hmap : label.mapM mapChar = some (label.map fun c => [c]) := mapM_eq_some_map fun c hc => by
    rw [mapChar, image?_of_isIdeograph (h.ideographs c hc)]
    exact if_pos (isValid_of_isIdeograph (h.ideographs c hc))
  have hflatten : (label.map fun c => [c]).flatten = label := by
    rw [← List.flatMap_def, List.flatMap_singleton']
  rw [fold?, h.isAscii_eq_false, hmap, Option.map_some, hflatten, h.compose_eq]
  rfl

theorem isLabel_eq : isLabel label = true := by
  have hvalid : label.all isValid = true :=
    List.all_eq_true.mpr fun c hc => isValid_of_isIdeograph (h.ideographs c hc)
  have hmark : label.head?.any isMark = false := by
    obtain ⟨c, rest, hcons⟩ := List.exists_cons_of_ne_nil h.ne_nil
    rw [hcons]
    exact isMark_eq_false (isPlainLetter_of_isIdeograph (h.ideographs c (hcons ▸ List.mem_cons_self)))
  have hjoiner : joiner ∉ label := h.notMem_of_lt (by
    rw [joiner, Utf8.toNat_ofNat (.inl (by omega))]
    omega)
  have hnonJoiner : nonJoiner ∉ label := h.notMem_of_lt (by
    rw [nonJoiner, Utf8.toNat_ofNat (.inl (by omega))]
    omega)
  have hjoiners (before rest : List Char) (hrest : ∀ c ∈ rest, c ∈ label) : joinersFit before rest = true := by
    induction rest generalizing before with
    | nil => rfl
    | cons c rest ih =>
      have hc := hrest c List.mem_cons_self
      have hneither : c ≠ joiner ∧ c ≠ nonJoiner :=
        ⟨fun heq => hjoiner (heq ▸ hc), fun heq => hnonJoiner (heq ▸ hc)⟩
      rw [joinersFit, beq_false_of_ne hneither.1, beq_false_of_ne hneither.2]
      simpa using ih (c :: before) fun d hd => hrest d (List.mem_cons_of_mem c hd)
  rw [isLabel, hvalid, hmark, hjoiners [] label fun c hc => hc]
  rfl

theorem eq_or_isPlain_of_mem (hlength : label.length ≤ 1000) {c : Char}
    (hc : c ∈ encodedFront ++ Punycode.encode label) : c = '-' ∨ Url.isPlain c = true := by
  rcases List.mem_append.mp hc with hfront | hcode
  · have hall : encodedFront.all (fun d => d == '-' || Url.isPlain d) = true := by decide
    simpa using List.all_eq_true.mp hall c hfront
  · rcases Punycode.mem_encode hlength hcode with ⟨hmem, hascii⟩ | hcode
    · have hlow : c.toNat < 0x4E00 := by omega
      exact absurd hmem (h.notMem_of_lt hlow)
    · exact hcode

/-- The ASCII form of a name of ideographs is its Punycode. -/
theorem toAscii?_eq (hlength : label.length ≤ 1000) :
    toAscii? (Utf8.encode label) = some (encodedFront ++ Punycode.encode label) := by
  have hdot : '.' ∉ label := h.notMem_of_lt (by decide)
  have hafter : after? encodedFront label = none := by
    cases hfront : after? encodedFront label with
    | none => rfl
    | some digits =>
      have hmem : 'x' ∈ label := by simp [eq_append_of_after? hfront, encodedFront]
      exact absurd hmem (h.notMem_of_lt (by decide))
  have hread : readLabel? label = some label := by
    rw [readLabel?, hafter]
    simp [h.isLabel_eq]
  have hwrite : writeLabel? label = some (encodedFront ++ Punycode.encode label) := by
    rw [writeLabel?, h.isAscii_eq_false]
    simp [Nat.not_lt.mpr hlength]
  have hdirection : isBidirectional [label] = false := isBidirectional_eq_false fun part hpart c hc => by
    rw [List.mem_singleton.mp hpart] at hc
    exact isPlainLetter_of_isIdeograph (h.ideographs c hc)
  have hname : writeName? label = some (encodedFront ++ Punycode.encode label) := by
    have hsplit : split '.' label = [label] := splitWhere_of_none fun c hc => by
      simpa using fun heq : c = '.' => hdot (heq ▸ hc)
    rw [writeName?, hsplit]
    simp [hread, hdirection, hwrite, join]
  have hallowed : (encodedFront ++ Punycode.encode label).all (!isForbidden ·) = true := by
    simp only [List.all_eq_true, Bool.not_eq_true']
    intro c hc
    rcases h.eq_or_isPlain_of_mem hlength hc with rfl | hplain
    · decide
    · exact isForbidden_of_isPlain hplain
  have hdecode : (Utf8.decode (Utf8.encode label)).toOption = some label := by
    rw [Utf8.decode_encode]
    rfl
  rw [toAscii?, hdecode, Option.bind_some, h.fold?_eq, Option.bind_some, hname, Option.filter_some,
    if_pos hallowed]

end IsIdeographic

end KeyApproval.Domain

namespace KeyApproval.Url

open Domain

variable {label : List Char}

theorem isHostText_of_isIdeographic (h : IsIdeographic label) : IsHostText label := by
  refine isHostText_of_not_mem h.ne_nil (fun c hc => ?_) fun c hc hmem => ?_
  · have := h.bounds c hc
    omega
  · have hlow : ['/', '\\', '?', '#', '@', ':', '[', ']'].all (fun d => d.toNat < 0x4E00) = true := by decide
    have := h.bounds c hc
    have := of_decide_eq_true (List.all_eq_true.mp hlow c hmem)
    omega

theorem split_of_isIdeographic (h : IsIdeographic label) (hlength : label.length ≤ 1000) :
    Text.split '.' (encodedFront ++ Punycode.encode label) = [encodedFront ++ Punycode.encode label] := by
  refine Text.splitWhere_of_none fun c hc => ?_
  rcases h.eq_or_isPlain_of_mem hlength hc with rfl | hplain
  · decide
  · exact beq_false_of_ne (ne_of_isPlain hplain (by decide))

theorem endsInNumber_of_isIdeographic (h : IsIdeographic label) (hlength : label.length ≤ 1000) :
    endsInNumber (encodedFront ++ Punycode.encode label) = false := by
  have hform : numberForm (encodedFront ++ Punycode.encode label) =
      (10, encodedFront ++ Punycode.encode label) := rfl
  have hdigits : (encodedFront ++ Punycode.encode label).mapM Text.hexValue? = none :=
    Text.mapM_eq_none_of_mem (a := 'x') (by simp [encodedFront]) (by decide)
  have hnumber : readIpv4Number? (encodedFront ++ Punycode.encode label) = none := by
    rw [readIpv4Number?, hform]
    simp [hdigits]
  have hletter : (encodedFront ++ Punycode.encode label).all Char.isDigit = false := rfl
  rw [endsInNumber, split_of_isIdeographic h hlength]
  change (_ && (encodedFront ++ Punycode.encode label).all Char.isDigit ||
    (readIpv4Number? (encodedFront ++ Punycode.encode label)).isSome) = false
  rw [hletter, hnumber, Bool.and_false]
  rfl

/-- A name of ideographs is read as its Punycode. -/
theorem readSpecial_of_isIdeographic (h : IsIdeographic label) (hlength : label.length ≤ 1000) :
    Host.readSpecial label = .ok (.name (String.ofList (encodedFront ++ Punycode.encode label))) := by
  unfold Host.readSpecial
  split
  · exact absurd List.mem_cons_self (h.notMem_of_lt (d := '[') (by decide))
  next =>
    rw [percentDecode_encode (h.notMem_of_lt (by decide)), h.toAscii?_eq hlength]
    split
    · contradiction
    next heq => simp [encodedFront] at heq
    next domain _ heq =>
      cases heq
      rw [endsInNumber_of_isIdeographic h hlength]
      rfl

/-- A long name of ideographs cannot be read again. -/
theorem isReadable_of_isIdeographic (h : IsIdeographic label) (hlength : label.length ≤ 1000)
    (hlong : 2000 < (Punycode.encode label).length) :
    Host.isReadable (.name (String.ofList (encodedFront ++ Punycode.encode label))) = false := by
  rw [Host.isReadable, String.toList_ofList, split_of_isIdeographic h hlength]
  simp [Domain.isReadable, Text.after?_append, hlong]

end KeyApproval.Url
