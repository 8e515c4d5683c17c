import KeyApproval.Proofs.Composition
import KeyApproval.Proofs.Punycode

/-!
# Names in their final form

The ASCII form of a name is its own ASCII form: nothing in it is mapped, and its labels read back as the
labels that they were written from, so that they pass the same checks. Only a label that became too long in
Punycode is refused the second time.
-/

namespace KeyApproval.Text

theorem eq_append_of_after? {front s rest : List Char} (h : after? front s = some rest) :
    s = front ++ rest := by
  induction front generalizing s with
  | nil => exact Option.some.inj h
  | cons a front ih =>
    cases s with
    | nil => cases h
    | cons c s =>
      rw [after?] at h
      split at h
      next heq => rw [eq_of_beq heq, ih h, List.cons_append]
      next => contradiction

/-! ### Lists that are read one by one -/

variable {α β : Type} {f : α → Option β} {l : List α} {images : List β}

theorem exists_of_mapM_cons {a : α} (h : (a :: l).mapM f = some images) :
    ∃ b rest, f a = some b ∧ l.mapM f = some rest ∧ images = b :: rest := by
  simp only [List.mapM_cons, Option.bind_eq_bind, Option.bind_eq_some_iff, Option.pure_def,
    Option.some.injEq] at h
  obtain ⟨b, hb, rest, hrest, heq⟩ := h
  exact ⟨b, rest, hb, hrest, heq.symm⟩

theorem length_of_mapM (h : l.mapM f = some images) : images.length = l.length := by
  induction l generalizing images with
  | nil =>
    cases h
    rfl
  | cons a l ih =>
    obtain ⟨b, rest, -, hrest, rfl⟩ := exists_of_mapM_cons h
    rw [List.length_cons, List.length_cons, ih hrest]

theorem mem_of_mapM (h : l.mapM f = some images) : ∀ b ∈ images, ∃ a ∈ l, f a = some b := by
  induction l generalizing images with
  | nil =>
    cases h
    simp
  | cons a l ih =>
    obtain ⟨first, rest, hfirst, hrest, rfl⟩ := exists_of_mapM_cons h
    intro b hb
    cases List.mem_cons.mp hb with
    | inl heq => exact ⟨a, List.mem_cons_self, heq ▸ hfirst⟩
    | inr hmem =>
      obtain ⟨d, hd, hfd⟩ := ih hrest b hmem
      exact ⟨d, List.mem_cons_of_mem a hd, hfd⟩

theorem mapM_eq_none_of_mem {a : α} (h : a ∈ l) (ha : f a = none) : l.mapM f = none := by
  induction l with
  | nil => cases h
  | cons b l ih =>
    rw [List.mapM_cons]
    cases List.mem_cons.mp h with
    | inl heq => rw [← heq, ha, Option.bind_eq_bind, Option.bind_none]
    | inr hmem =>
      rw [ih hmem]
      cases f b <;> rfl

theorem mapM_eq_some_map {g : α → β} (h : ∀ a ∈ l, f a = some (g a)) : l.mapM f = some (l.map g) := by
  induction l with
  | nil => rfl
  | cons a l ih =>
    rw [List.mapM_cons, h a List.mem_cons_self, ih fun b hb => h b (List.mem_cons_of_mem a hb)]
    rfl

theorem mapM_eq_self {f : α → Option α} (h : ∀ a ∈ l, f a = some a) : l.mapM f = some l := by
  simpa using mapM_eq_some_map (g := id) h

end KeyApproval.Text

namespace KeyApproval.Domain

open Text

/-! ### Small letters -/

theorem toNat_toLower (c : Char) :
    c.toLower.toNat = if isUpper c.toNat then c.toNat + 32 else c.toNat := by
  simp only [isUpper, Bool.and_eq_true, decide_eq_true_eq]
  unfold Char.toLower
  split
  next hupper =>
    obtain ⟨hlow, hhigh⟩ := hupper
    simp only [ge_iff_le, UInt32.le_iff_toNat_le] at hlow hhigh
    change 65 ≤ c.toNat at hlow
    change c.toNat ≤ 90 at hhigh
    rw [if_pos ⟨hlow, hhigh⟩]
    change (c.val + 32).toNat = c.toNat + 32
    rw [UInt32.toNat_add]
    change (c.toNat + 32) % 4294967296 = c.toNat + 32
    omega
  next hupper =>
    simp only [ge_iff_le, UInt32.le_iff_toNat_le] at hupper
    exact (if_neg hupper).symm

theorem isUpper_toLower (c : Char) : isUpper c.toLower.toNat = false := by
  rw [toNat_toLower]
  split
  next hupper =>
    simp only [isUpper, Bool.and_eq_true, Bool.and_eq_false_iff, decide_eq_true_eq,
      decide_eq_false_iff_not] at hupper ⊢
    omega
  next hupper => exact Bool.eq_false_iff.mpr hupper

theorem toNat_toLower_lt {c : Char} (h : c.toNat < 0x80) : c.toLower.toNat < 0x80 := by
  rw [toNat_toLower]
  split
  next hupper =>
    simp only [isUpper, Bool.and_eq_true, decide_eq_true_eq] at hupper
    omega
  next => exact h

theorem toLower_of_isUpper_eq_false {c : Char} (h : isUpper c.toNat = false) : c.toLower = c := by
  apply Char.toNat_inj.mp
  rw [toNat_toLower, h]
  rfl

def isFolded (s : List Char) : Bool := s.all fun c => !isUpper c.toNat

theorem isFolded_iff {s : List Char} : isFolded s = true ↔ ∀ c ∈ s, isUpper c.toNat = false := by
  simp [isFolded]

theorem isAscii_iff {s : List Char} : isAscii s = true ↔ ∀ c ∈ s, c.toNat < 0x80 := by
  simp [isAscii]

theorem lower_of_isFolded {s : List Char} (h : isFolded s = true) : lower s = s :=
  (List.map_congr_left fun c hc => toLower_of_isUpper_eq_false (isFolded_iff.mp h c hc)).trans
    (List.map_id' s)

/-! ### Mapping -/

theorem any_isUpper_of_mapChar {c : Char} {image : List Char} (h : mapChar c = some image) :
    ∀ d ∈ image, (NormalForm.decompose d.toNat).any isUpper = false := by
  rw [mapChar] at h
  split at h
  next found hfound =>
    cases h
    obtain ⟨e, he, rfl⟩ := Option.map_eq_some_iff.mp hfound
    have hcovers : e.covers c.toNat = true := by simpa using List.find?_some he
    intro d hd
    obtain ⟨m, hm, rfl⟩ := List.mem_map.mp hd
    by_cases hvalid : m.isValidChar
    · rw [Utf8.toNat_ofNat hvalid]
      exact any_isUpper_of_mem_apply (List.mem_of_find?_eq_some he) hcovers hm
    · rw [Char.ofNat, dif_neg hvalid]
      decide
  next =>
    split at h
    next hvalid =>
      cases h
      exact List.forall_mem_singleton.mpr (any_isUpper_of_isValid hvalid)
    next => contradiction

/-- A mapped name has no capitals, and what is beyond ASCII in it is composed. -/
theorem fold?_spec {s folded : List Char} (h : fold? s = some folded) :
    isFolded folded = true ∧ (isAscii folded = true ∨ NormalForm.compose folded = folded) := by
  rw [isFolded_iff]
  rw [fold?] at h
  split at h
  next hascii =>
    cases h
    refine ⟨fun c hc => ?_, .inl (isAscii_iff.mpr fun c hc => ?_)⟩
    · obtain ⟨d, -, rfl⟩ := List.mem_map.mp hc
      exact isUpper_toLower d
    · obtain ⟨d, hd, rfl⟩ := List.mem_map.mp hc
      exact toNat_toLower_lt (isAscii_iff.mp hascii d hd)
  next =>
    obtain ⟨images, himages, rfl⟩ := Option.map_eq_some_iff.mp h
    refine ⟨fun c hc => ?_, .inr (NormalForm.compose_compose _)⟩
    rcases NormalForm.mem_compose hc with ⟨d, hd, hcd⟩ | hhigh
    · obtain ⟨image, himage, hmem⟩ := List.mem_flatten.mp hd
      obtain ⟨a, -, ha⟩ := mem_of_mapM himages image himage
      have hnone := List.any_eq_false.mp (any_isUpper_of_mapChar ha d hmem) c.toNat hcd
      simpa using hnone
    · simp only [isUpper, Bool.and_eq_false_iff, decide_eq_false_iff_not]
      omega

theorem fold?_eq_self {s : List Char} (hascii : isAscii s = true) (hfolded : isFolded s = true) :
    fold? s = some s := by
  rw [fold?, if_pos hascii, lower_of_isFolded hfolded]

/-! ### Labels -/

/-- A label of a mapped name. -/
structure IsMapped (label : List Char) : Prop where
  dotless : '.' ∉ label
  folded : isFolded label = true
  composed : isAscii label = true ∨ NormalForm.compose label = label

theorem isMapped_of_mem_split {s folded : List Char} (h : fold? s = some folded) :
    ∀ label ∈ split '.' folded, IsMapped label := by
  intro label hlabel
  obtain ⟨hfolded, hcomposed⟩ := fold?_spec h
  have hmem : ∀ c ∈ label, c ∈ folded := fun c hc => (of_mem_splitWhere hlabel c hc).2
  refine ⟨notMem_of_mem_split hlabel, isFolded_iff.mpr fun c hc => ?_, hcomposed.imp ?_ ?_⟩
  · exact isFolded_iff.mp hfolded c (hmem c hc)
  · exact fun hascii => isAscii_iff.mpr fun c hc => isAscii_iff.mp hascii c (hmem c hc)
  · exact fun heq => NormalForm.compose_of_mem_split heq label hlabel

/-- Whether a label in Punycode is short enough to be read. -/
def isReadable (label : List Char) : Bool := (after? encodedFront label).all fun digits => digits.length ≤ 2000

theorem readLabel?_of_not_isReadable {label : List Char} (h : isReadable label = false) :
    readLabel? label = none := by
  cases hafter : after? encodedFront label with
  | none => simp [isReadable, hafter] at h
  | some digits =>
    have hlong : 2000 < digits.length := by simpa [isReadable, hafter] using h
    simp [readLabel?, hafter, hlong]

theorem isUpper_of_isPlain {c : Char} (h : Url.isPlain c = true) : isUpper c.toNat = false := by
  have := Url.toNat_of_isPlain h
  simp only [isUpper, Bool.and_eq_false_iff, decide_eq_false_iff_not]
  omega

/-- A label in Punycode has no capitals and no full stops if the text has none in ASCII. -/
theorem isMapped_encode {text : List Char} (hlength : text.length ≤ 1000)
    (hbasic : ∀ c ∈ text, c.toNat < 0x80 → c ≠ '.' ∧ isUpper c.toNat = false) :
    isAscii (encodedFront ++ Punycode.encode text) = true ∧ IsMapped (encodedFront ++ Punycode.encode text) := by
  have hchar : ∀ c ∈ encodedFront ++ Punycode.encode text,
      c.toNat < 0x80 ∧ c ≠ '.' ∧ isUpper c.toNat = false := by
    intro c hc
    rcases List.mem_append.mp hc with hfront | hcode
    · have hall : encodedFront.all (fun c => c.toNat < 0x80 && c != '.' && !isUpper c.toNat) = true := by
        decide
      simpa [and_assoc] using List.all_eq_true.mp hall c hfront
    · rcases Punycode.mem_encode hlength hcode with ⟨hmem, hascii⟩ | rfl | hplain
      · exact ⟨hascii, hbasic c hmem hascii⟩
      · decide
      · have hbounds := Url.toNat_of_isPlain hplain
        exact ⟨by omega, Url.ne_of_isPlain hplain (by decide), isUpper_of_isPlain hplain⟩
  have hascii := isAscii_iff.mpr fun c hc => (hchar c hc).1
  exact ⟨hascii, fun hmem => (hchar '.' hmem).2.1 rfl, isFolded_iff.mpr fun c hc => (hchar c hc).2.2,
    .inl hascii⟩

theorem readLabel?_encode {text : List Char} (hlength : text.length ≤ 1000) (hwide : isAscii text = false)
    (hlabel : isLabel text = true) (hcomposed : NormalForm.compose text = text)
    (hascii : isAscii (encodedFront ++ Punycode.encode text) = true)
    (hshort : isReadable (encodedFront ++ Punycode.encode text) = true) :
    readLabel? (encodedFront ++ Punycode.encode text) = some text := by
  have hdigits : (Punycode.encode text).length ≤ 2000 := by
    simpa [isReadable, after?_append] using hshort
  rw [readLabel?, after?_append]
  dsimp only
  rw [hascii, Punycode.decode?_encode hlength]
  simp [hdigits, hwide, hlabel, hcomposed]

/-- A written label reads back as the label, unless it is too long. -/
theorem writeLabel?_spec {raw label written : List Char} (hraw : IsMapped raw)
    (hread : readLabel? raw = some label) (hwrite : writeLabel? label = some written) :
    isAscii written = true ∧ IsMapped written ∧
      (isReadable written = true → readLabel? written = some label) := by
  rw [readLabel?] at hread
  rw [writeLabel?] at hwrite
  split at hread
  next hafter =>
    split at hread
    next hfit =>
      cases hread
      split at hwrite
      next hascii =>
        cases hwrite
        refine ⟨hascii, hraw, fun _ => ?_⟩
        rw [readLabel?, hafter]
        exact if_pos hfit
      next hwide =>
        split at hwrite
        · contradiction
        next hlength =>
          cases hwrite
          have hlength : raw.length ≤ 1000 := by omega
          have hwide : isAscii raw = false := Bool.eq_false_iff.mpr hwide
          have hlabel : isLabel raw = true := by simpa [hwide] using hfit
          have hcomposed := hraw.composed.resolve_left (by simp [hwide])
          obtain ⟨hascii, hmapped⟩ := isMapped_encode hlength fun c hc _ =>
            ⟨fun heq => hraw.dotless (heq ▸ hc), isFolded_iff.mp hraw.folded c hc⟩
          exact ⟨hascii, hmapped, readLabel?_encode hlength hwide hlabel hcomposed hascii⟩
    next => contradiction
  next digits hafter =>
    split at hread
    · contradiction
    next =>
      obtain ⟨hdecode, hchecks⟩ := Option.filter_eq_some_iff.mp hread
      simp only [Bool.and_eq_true, Bool.not_eq_true', beq_iff_eq] at hchecks
      obtain ⟨⟨hwide, hlabel⟩, hcomposed⟩ := hchecks
      rw [hwide] at hwrite
      split at hwrite
      · contradiction
      · split at hwrite
        · contradiction
        next hlength =>
          cases hwrite
          have hlength : label.length ≤ 1000 := by omega
          have hdigits : ∀ c ∈ digits, c ∈ raw := fun c hc =>
            eq_append_of_after? hafter ▸ List.mem_append_right encodedFront hc
          obtain ⟨hascii, hmapped⟩ := isMapped_encode hlength fun c hc hbasic =>
            have hmem := hdigits c (Punycode.mem_of_decode? hdecode hc hbasic)
            ⟨fun heq => hraw.dotless (heq ▸ hmem), isFolded_iff.mp hraw.folded c hmem⟩
          exact ⟨hascii, hmapped, readLabel?_encode hlength hwide hlabel hcomposed hascii⟩

/-! ### Names -/

/-- Labels that were written read back as the labels that were read first. -/
theorem mapM_readLabel?_written {raws labels written : List (List Char)}
    (hraws : ∀ raw ∈ raws, IsMapped raw) (hread : raws.mapM readLabel? = some labels)
    (hwrite : labels.mapM writeLabel? = some written) :
    (∀ w ∈ written, isAscii w = true ∧ IsMapped w) ∧
      ((∀ w ∈ written, isReadable w = true) → written.mapM readLabel? = some labels) := by
  induction raws generalizing labels written with
  | nil =>
    cases hread
    cases hwrite
    simp
  | cons raw raws ih =>
    obtain ⟨label, labels, hlabel, hlabels, rfl⟩ := exists_of_mapM_cons hread
    obtain ⟨w, written, hw, hwritten, rfl⟩ := exists_of_mapM_cons hwrite
    obtain ⟨hascii, hmapped, hback⟩ := writeLabel?_spec (hraws raw List.mem_cons_self) hlabel hw
    obtain ⟨hall, hbacks⟩ := ih (fun r hr => hraws r (List.mem_cons_of_mem raw hr)) hlabels hwritten
    refine ⟨List.forall_mem_cons.mpr ⟨⟨hascii, hmapped⟩, hall⟩, fun hshort => ?_⟩
    rw [List.mapM_cons, hback (hshort w List.mem_cons_self),
      hbacks fun v hv => hshort v (List.mem_cons_of_mem w hv)]
    rfl

/-- The labels of a name in its final form are those that were read from the name as it was given. -/
theorem writeName?_spec {s folded name : List Char} (hfold : fold? s = some folded)
    (hwrite : writeName? folded = some name) :
    isAscii name = true ∧ isFolded name = true ∧
      writeName? name = if (split '.' name).all isReadable then some name else none := by
  rw [writeName?, Option.bind_eq_some_iff] at hwrite
  obtain ⟨labels, hlabels, hwrite⟩ := hwrite
  have hname := hwrite
  split at hname
  · contradiction
  next hdirection =>
    obtain ⟨written, hwritten, rfl⟩ := Option.map_eq_some_iff.mp hname
    obtain ⟨hall, hback⟩ := mapM_readLabel?_written (isMapped_of_mem_split hfold) hlabels hwritten
    have hne : written ≠ [] := by
      intro hnil
      have hlength := (length_of_mapM hwritten).trans (length_of_mapM hlabels)
      rw [hnil] at hlength
      exact splitWhere_ne_nil _ folded (List.length_eq_zero_iff.mp hlength.symm)
    have hsplit : split '.' (join '.' written) = written :=
      split_join hne fun w hw => (hall w hw).2.dotless
    refine ⟨isAscii_iff.mpr fun c hc => ?_, isFolded_iff.mpr fun c hc => ?_, ?_⟩
    · rcases mem_join hc with rfl | ⟨w, hw, hcw⟩
      · decide
      · exact isAscii_iff.mp (hall w hw).1 c hcw
    · rcases mem_join hc with rfl | ⟨w, hw, hcw⟩
      · decide
      · exact isFolded_iff.mp (hall w hw).2.folded c hcw
    · rw [writeName?, hsplit]
      split
      next hshort =>
        rw [hback (List.all_eq_true.mp hshort)]
        exact hwrite
      next hlong =>
        rw [List.all_eq_true, not_forall] at hlong
        obtain ⟨w, hw⟩ := hlong
        rw [Classical.not_imp, Bool.not_eq_true] at hw
        rw [mapM_eq_none_of_mem hw.1 (readLabel?_of_not_isReadable hw.2)]
        rfl

/-- A name in its final form is its own ASCII form, unless one of its labels is too long to be read. -/
theorem toAscii?_encode {bytes : List UInt8} {name : List Char} (h : toAscii? bytes = some name) :
    toAscii? (Utf8.encode name) = if (split '.' name).all isReadable then some name else none := by
  rw [toAscii?] at h
  obtain ⟨hname, hallowed⟩ := Option.filter_eq_some_iff.mp h
  obtain ⟨folded, hfolded, hwrite⟩ := Option.bind_eq_some_iff.mp hname
  obtain ⟨s, -, hfold⟩ := Option.bind_eq_some_iff.mp hfolded
  obtain ⟨hascii, hlower, hagain⟩ := writeName?_spec hfold hwrite
  have hdecode : (Utf8.decode (Utf8.encode name)).toOption = some name := by
    rw [Utf8.decode_encode]
    rfl
  rw [toAscii?, hdecode, Option.bind_some, fold?_eq_self hascii hlower, Option.bind_some, hagain]
  split
  · rw [Option.filter_some, if_pos hallowed]
  · rfl

/-! ### Names of digits -/

theorem isForbidden_of_isPlain {c : Char} (h : Url.isPlain c = true) : isForbidden c = false := by
  have hbounds := Url.toNat_of_isPlain h
  have hfree : c ∉ ['%', '#', '/', ':', '<', '>', '?', '@', '[', '\\', ']', '^', '|'] := by
    intro hmem
    have hall : ['%', '#', '/', ':', '<', '>', '?', '@', '[', '\\', ']', '^', '|'].all
        (fun d => !Url.isPlain d) = true := by decide
    have hc := List.all_eq_true.mp hall c hmem
    rw [h] at hc
    contradiction
  have hspace : ¬c.toNat ≤ 0x20 := by omega
  have hdelete : c.toNat ≠ 0x7F := by omega
  simp [isForbidden, hspace, hdelete, hfree]

theorem readLabel?_of_isDigit {label : List Char} (h : ∀ c ∈ label, c.isDigit = true) :
    isAscii label = true ∧ readLabel? label = some label := by
  have hascii : isAscii label = true := isAscii_iff.mpr fun c hc => by
    have hrange : 48 ≤ c.toNat ∧ c.toNat ≤ 57 := Char.isDigit_iff_toNat.mp (h c hc)
    omega
  have hafter : after? encodedFront label = none := by
    cases label with
    | nil => rfl
    | cons c rest =>
      have hx : ('x' == c) = false := by
        refine beq_false_of_ne fun heq => ?_
        have := h c List.mem_cons_self
        rw [← heq] at this
        contradiction
      rw [encodedFront, after?, hx]
      rfl
  exact ⟨hascii, by rw [readLabel?, hafter, hascii]; rfl⟩

/-- A name of digits is its own ASCII form. -/
theorem toAscii?_of_isDigit {labels : List (List Char)} (hne : labels ≠ [])
    (h : ∀ label ∈ labels, ∀ c ∈ label, c.isDigit = true) :
    toAscii? (Utf8.encode (join '.' labels)) = some (join '.' labels) := by
  have hchar : ∀ c ∈ join '.' labels, c = '.' ∨ Url.isPlain c = true := by
    intro c hc
    refine (mem_join hc).imp_right ?_
    rintro ⟨label, hlabel, hmem⟩
    exact Url.isPlain_of_isDigit (h label hlabel c hmem)
  have hdot : ∀ label ∈ labels, '.' ∉ label := by
    intro label hlabel hmem
    have := h label hlabel '.' hmem
    contradiction
  have hascii : isAscii (join '.' labels) = true := isAscii_iff.mpr fun c hc => by
    rcases hchar c hc with rfl | hplain
    · decide
    · have := Url.toNat_of_isPlain hplain
      omega
  have hfolded : isFolded (join '.' labels) = true := isFolded_iff.mpr fun c hc => by
    rcases hchar c hc with rfl | hplain
    · decide
    · exact isUpper_of_isPlain hplain
  have hallowed : (join '.' labels).all (!isForbidden ·) = true := by
    simp only [List.all_eq_true, Bool.not_eq_true']
    intro c hc
    rcases hchar c hc with rfl | hplain
    · decide
    · exact isForbidden_of_isPlain hplain
  have hdecode : (Utf8.decode (Utf8.encode (join '.' labels))).toOption = some (join '.' labels) := by
    rw [Utf8.decode_encode]
    rfl
  have hread : labels.mapM readLabel? = some labels :=
    mapM_eq_self fun label hlabel => (readLabel?_of_isDigit (h label hlabel)).2
  have hwrite : labels.mapM writeLabel? = some labels :=
    mapM_eq_self fun label hlabel => if_pos (readLabel?_of_isDigit (h label hlabel)).1
  have hdirection : isBidirectional labels = false := isBidirectional_eq_false fun label hlabel c hc => by
    have hrange : 48 ≤ c.toNat ∧ c.toNat ≤ 57 := Char.isDigit_iff_toNat.mp (h label hlabel c hc)
    simp only [isPlainLetter, Bool.or_eq_true, Bool.and_eq_true, decide_eq_true_eq]
    omega
  have hname : writeName? (join '.' labels) = some (join '.' labels) := by
    rw [writeName?, split_join hne hdot, hread, Option.bind_some, hdirection, hwrite]
    rfl
  rw [toAscii?, hdecode, Option.bind_some, fold?_eq_self hascii hfolded, Option.bind_some, hname,
    Option.filter_some, if_pos hallowed]

end KeyApproval.Domain
