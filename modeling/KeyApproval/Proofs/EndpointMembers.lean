import KeyApproval.Endpoint
import KeyApproval.Proofs.Decoders
import KeyApproval.Proofs.JsonPassing

/-!
# The members of an endpoint in JSON

The texts in which an endpoint may be given, as a grammar over bytes: an object with its members in any order
and others between them, or an array of their values. The readers of the members read what the grammar says
of them and nothing else.
-/

namespace KeyApproval.Endpoint

open Json Text.Utf8

/-! ### The grammar -/

/-- A member of the object: one of an endpoint, or one that means nothing to it. -/
inductive Field where
  | host (h : String)
  | port (p : UInt16)
  | verifyTls (b : Bool)
  | other (name : String)

namespace Field

def name : Field → String
  | host _ => "host"
  | port _ => "port"
  | verifyTls _ => "verify_tls"
  | other name => name

def host? : Field → Option String
  | host h => some h
  | _ => none

def port? : Field → Option UInt16
  | port p => some p
  | _ => none

def verifyTls? : Field → Option Bool
  | verifyTls b => some b
  | _ => none

end Field

/-- The text of the value of a member. A port is digits only, without a zero in front of others; what means
nothing has the form of a value and a name of its own. -/
inductive ValueText : List UInt8 → Field → Prop where
  | host {raw : List UInt8} {h : String} : Spells raw h.toList → ValueText (0x22 :: raw ++ [0x22]) (.host h)
  | port {s : List UInt8} {digits : List Nat} {p : UInt16} : Whole s digits →
      Text.digitsValue 10 digits = p.toNat → ValueText s (.port p)
  | verifyTls {s : List UInt8} {b : Bool} : Scalar s (.bool b) → ValueText s (.verifyTls b)
  | other {s : List UInt8} {name : String} : name ≠ "host" → name ≠ "port" → name ≠ "verify_tls" → Passes s →
      ValueText s (.other name)

/-- The text of the value of a member of that name. -/
def FieldText (name : String) (s : List UInt8) (f : Field) : Prop := f.name = name ∧ ValueText s f

/-- The text of a member, in which the name may be spelled with escapes. -/
def MemberText : List UInt8 → Field → Prop :=
  Named (fun raw name => Spells raw name.toList) FieldText

/-- Each member of the endpoint is there once, in any order and with any others between them. -/
structure Lists (fields : List Field) (e : Endpoint) : Prop where
  host : fields.filterMap Field.host? = [e.host]
  port : fields.filterMap Field.port? = [e.port]
  verifyTls : fields.filterMap Field.verifyTls? = [e.verifyTls]

inductive Form : List UInt8 → Endpoint → Prop where
  | object {s : List UInt8} {fields : List Field} {e : Endpoint} : Items MemberText s fields →
      Lists fields e → Form (0x7B :: s ++ [0x7D]) e
  | array {s : List UInt8} {e : Endpoint} :
      Items ValueText s [.host e.host, .port e.port, .verifyTls e.verifyTls] → Form (0x5B :: s ++ [0x5D]) e

/-- A whole text: the endpoint in one of its forms, between blanks. -/
def IsGivenBy (e : Endpoint) (text : List UInt8) : Prop :=
  ∃ before inner after, text = before ++ (inner ++ after) ∧ Blank before ∧ Blank after ∧ Form inner e

/-! ### Ports -/

theorem spellsNumber_plain_iff {s : List UInt8} {digits : List Nat} :
    SpellsNumber s ⟨false, digits, [], none⟩ ↔ Whole s digits := by
  constructor
  · intro h
    generalize hn : (⟨false, digits, [], none⟩ : Numeral) = n at h
    obtain ⟨hsign, hw, hf, he⟩ := h
    cases hn
    cases hsign
    cases he
    cases hf with
    | none => simpa using hw
    | @some t _ ht => exact absurd (List.map_eq_nil_iff.mp ht.values.symm) ht.ne_nil
  · intro h
    simpa using SpellsNumber.mk .none h .none .none

theorem le_foldl_digits (m : Nat) (digits : List Nat) : m ≤ digits.foldl (fun n d => n * 10 + d) m := by
  induction digits generalizing m with
  | nil => exact Nat.le_refl m
  | cons d digits ih =>
    rw [List.foldl_cons]
    exact Nat.le_trans (by omega) (ih (m * 10 + d))

theorem fillSignificand_of_lt {m : Nat} {digits : List Nat}
    (h : digits.foldl (fun n d => n * 10 + d) m < UInt64.size) : (fillSignificand m digits).2 = 0 := by
  induction digits generalizing m with
  | nil => rfl
  | cons d digits ih =>
    rw [List.foldl_cons] at h
    rw [fillSignificand, if_pos (Nat.lt_of_le_of_lt (le_foldl_digits _ digits) h)]
    exact ih h

/-- Digits that 64 bits can hold are kept, however a float would fare with them. -/
theorem isInRange_plain {digits : List Nat} (h : Text.digitsValue 10 digits < UInt64.size) :
    Numeral.IsInRange ⟨false, digits, [], none⟩ :=
  .inl (by simpa [Numeral.isSmallInteger] using fillSignificand_of_lt h)

theorem portText_iff {s : List UInt8} {p : UInt16} :
    ValueText s (.port p) ↔ ∃ n v, Scalar s (.number n) ∧ n.natural? = some v ∧ v.toNat = p.toNat := by
  have hp := p.toNat_lt
  constructor
  · intro h
    cases h with
    | @port _ digits _ hs hvalue =>
      have hsize : Text.digitsValue 10 digits < UInt64.size := by
        rw [hvalue]
        exact Nat.lt_trans hp (by decide)
      have hv : (UInt64.ofNat p.toNat).toNat = p.toNat :=
        UInt64.toNat_ofNat_of_lt' (Nat.lt_trans hp (by decide))
      refine ⟨⟨false, digits, [], none⟩, UInt64.ofNat p.toNat,
        .number (spellsNumber_plain_iff.mpr hs) (isInRange_plain hsize), ?_, hv⟩
      exact Client.natural?_eq_some_iff.mpr ⟨digits, rfl, hvalue.trans hv.symm⟩
  · rintro ⟨n, v, hs, hn, hv⟩
    have hn' : (Value.number n).natural? = some v := hn
    obtain ⟨digits, heq, hvalue⟩ := Client.natural?_eq_some_iff.mp hn'
    cases heq
    cases hs with
    | number hs => exact .port (spellsNumber_plain_iff.mp hs) (hvalue.trans hv)

/-! ### Values of members -/

theorem refuse_ne_ok {α : Type} (s : List UInt8) (found : α) : refuse s ≠ .ok found := by
  unfold refuse
  intro h
  split at h
  · cases h
  · cases h
  · cases h
  · split at h <;> cases h

theorem refuse_skipSpace {α : Type} {before : List UInt8} (h : Blank before) (s : List UInt8) :
    (refuse (before ++ s) : Except Json.Error α) = refuse s := by
  simp only [refuse, skipSpace_append h]

theorem readHost_eq_ok_iff {s : List UInt8} {found : Found String} :
    readHost s = .ok found ↔ ∃ t, skipSpace s = 0x22 :: t ∧ readString t = .ok found := by
  unfold readHost
  split
  · next t hskip =>
    rw [hskip]
    simp
  · next hskip =>
    refine iff_of_false (refuse_ne_ok s found) ?_
    rintro ⟨t, ht, -⟩
    exact hskip t ht

theorem readPort_eq_ok_iff {s : List UInt8} {p : UInt16} {rest : List UInt8} :
    readPort s = .ok (p, rest) ↔
      ∃ n v, readScalar .checking (skipSpace s) = .ok (.number n, rest) ∧ n.natural? = some v ∧
        v.toNat = p.toNat := by
  unfold readPort
  constructor
  · intro h
    split at h
    · next n rest' hread =>
      split at h
      · next v hn =>
        split_ifs at h with hlt
        cases h
        exact ⟨n, v, hread, hn, (UInt16.toNat_ofNat_of_lt' hlt).symm⟩
      · cases h
    · exact absurd h (refuse_ne_ok s _)
  · rintro ⟨n, v, hread, hn, hv⟩
    have hlt : v.toNat < 65536 := hv ▸ p.toNat_lt
    rw [hread]
    dsimp only
    rw [hn]
    dsimp only
    rw [if_pos hlt, hv, Nat.toUInt16_eq, UInt16.ofNat_toNat]
    rfl

theorem readFlag_eq_ok_iff {s : List UInt8} {b : Bool} {rest : List UInt8} :
    readFlag s = .ok (b, rest) ↔ readScalar .checking (skipSpace s) = .ok (.bool b, rest) := by
  unfold readFlag
  split
  · next b' rest' hread =>
    rw [hread]
    simp [pure, Except.pure]
  · next hread =>
    refine iff_of_false (refuse_ne_ok s _) ?_
    exact fun h => hread b rest h

theorem hostText_reads : Reads (fun s h => ValueText s (.host h)) readHost where
  starts h := by
    cases h
    exact ⟨0x22, _, rfl, by decide⟩
  append {s h rest} hs _ := by
    cases hs with
    | @host raw _ hraw =>
      refine readHost_eq_ok_iff.mpr ⟨raw ++ 0x22 :: rest, ?_, readString_eq_ok_iff.mpr ⟨raw, rfl, hraw⟩⟩
      rw [List.append_assoc]
      exact skipSpace_cons (by decide) _
  sound {s h rest} hread := by
    obtain ⟨t, hskip, hread⟩ := readHost_eq_ok_iff.mp hread
    obtain ⟨raw, rfl, hraw⟩ := readString_eq_ok_iff.mp hread
    obtain ⟨before, hs, hbefore⟩ := exists_blank s
    rw [hskip] at hs
    exact ⟨before, 0x22 :: raw ++ [0x22], by simpa using hs, hbefore, .host hraw⟩

theorem scalar_reads_trimmed : Reads Scalar fun s => readScalar .checking (skipSpace s) where
  starts := scalar_reads.starts_value
  append {s v rest} h hrest := by
    have hskip : skipSpace (s ++ rest) = s ++ rest :=
      (denotes_reads 0).skipSpace_append blank_nil h rest
    rw [hskip]
    exact readScalar_append h hrest
  sound {s v rest} h := by
    obtain ⟨before, hs, hbefore⟩ := exists_blank s
    obtain ⟨text, htext, hscalar⟩ := exists_of_readScalar h
    exact ⟨before, text, by rw [← htext, ← hs], hbefore, hscalar⟩

theorem portText_reads : Reads (fun s p => ValueText s (.port p)) readPort where
  starts h := by
    obtain ⟨n, v, hs, -⟩ := portText_iff.mp h
    exact scalar_reads.starts_value hs
  append h hrest := by
    obtain ⟨n, v, hs, hn, hv⟩ := portText_iff.mp h
    exact readPort_eq_ok_iff.mpr ⟨n, v, scalar_reads_trimmed.append hs hrest, hn, hv⟩
  sound h := by
    obtain ⟨n, v, hread, hn, hv⟩ := readPort_eq_ok_iff.mp h
    obtain ⟨before, text, hs, hbefore, htext⟩ := scalar_reads_trimmed.sound hread
    exact ⟨before, text, hs, hbefore, portText_iff.mpr ⟨n, v, htext, hn, hv⟩⟩

theorem flagText_iff {s : List UInt8} {b : Bool} : ValueText s (.verifyTls b) ↔ Scalar s (.bool b) := by
  constructor
  · intro h
    cases h with
    | verifyTls hs => exact hs
  · exact .verifyTls

theorem flagText_reads : Reads (fun s b => ValueText s (.verifyTls b)) readFlag where
  starts h := scalar_reads.starts_value (flagText_iff.mp h)
  append h hrest := readFlag_eq_ok_iff.mpr (scalar_reads_trimmed.append (flagText_iff.mp h) hrest)
  sound h := by
    obtain ⟨before, text, hs, hbefore, htext⟩ := scalar_reads_trimmed.sound (readFlag_eq_ok_iff.mp h)
    exact ⟨before, text, hs, hbefore, .verifyTls htext⟩

/-- Passing over a value leaves nothing of it. -/
def readSkipped (s : List UInt8) : Except Json.Error (Found Unit) := do
  let rest ← skipValue s
  return ((), rest)

theorem passes_reads : Reads (fun s _ => Passes s) readSkipped where
  starts h := by
    obtain ⟨depth, v, h⟩ := h
    exact (passedValue_reads depth).starts h
  append {s a rest} h hrest := by
    have hskip : skipValue (s ++ rest) = .ok rest :=
      skipValue_append blank_nil h hrest
    exact bind_eq_ok_iff.mpr ⟨rest, hskip, rfl⟩
  sound h := by
    obtain ⟨after, hskip, h⟩ := bind_eq_ok_iff.mp h
    cases h
    exact exists_of_skipValue hskip

/-! ### Members -/

/-- Reads the value that the name of a member asks for. -/
def readFieldValue (name : String) : List UInt8 → Except Json.Error (Found Field) :=
  if name = "host" then readImage Field.host readHost
  else if name = "port" then readImage Field.port readPort
  else if name = "verify_tls" then readImage Field.verifyTls readFlag
  else readImage (fun _ => Field.other name) readSkipped

def readField : List UInt8 → Except Json.Error (Found Field) := readNamed .checking readFieldValue

theorem fieldText_host (s : List UInt8) (f : Field) :
    FieldText "host" s f ↔ Image .host (fun s h => ValueText s (.host h)) s f := by
  constructor
  · rintro ⟨hname, htext⟩
    cases htext with
    | host hraw => exact ⟨_, .host hraw, rfl⟩
    | port => exact absurd hname (by simp [Field.name])
    | verifyTls => exact absurd hname (by simp [Field.name])
    | other hne => exact absurd hname hne
  · rintro ⟨h, htext, rfl⟩
    exact ⟨rfl, htext⟩

theorem fieldText_port (s : List UInt8) (f : Field) :
    FieldText "port" s f ↔ Image .port (fun s p => ValueText s (.port p)) s f := by
  constructor
  · rintro ⟨hname, htext⟩
    cases htext with
    | host => exact absurd hname (by simp [Field.name])
    | port hs hvalue => exact ⟨_, .port hs hvalue, rfl⟩
    | verifyTls => exact absurd hname (by simp [Field.name])
    | other _ hne => exact absurd hname hne
  · rintro ⟨p, htext, rfl⟩
    exact ⟨rfl, htext⟩

theorem fieldText_verifyTls (s : List UInt8) (f : Field) :
    FieldText "verify_tls" s f ↔ Image .verifyTls (fun s b => ValueText s (.verifyTls b)) s f := by
  constructor
  · rintro ⟨hname, htext⟩
    cases htext with
    | host => exact absurd hname (by simp [Field.name])
    | port => exact absurd hname (by simp [Field.name])
    | verifyTls hs => exact ⟨_, .verifyTls hs, rfl⟩
    | other _ _ hne => exact absurd hname hne
  · rintro ⟨b, htext, rfl⟩
    exact ⟨rfl, htext⟩

theorem fieldText_other {name : String} (hhost : name ≠ "host") (hport : name ≠ "port")
    (hverifyTls : name ≠ "verify_tls") (s : List UInt8) (f : Field) :
    FieldText name s f ↔ Image (fun _ : Unit => .other name) (fun s _ => Passes s) s f := by
  constructor
  · rintro ⟨rfl, htext⟩
    cases htext with
    | host => exact absurd rfl hhost
    | port => exact absurd rfl hport
    | verifyTls => exact absurd rfl hverifyTls
    | other _ _ _ h => exact ⟨(), h, rfl⟩
  · rintro ⟨-, h, rfl⟩
    exact ⟨rfl, .other hhost hport hverifyTls h⟩

theorem fieldText_reads (name : String) : Reads (FieldText name) (readFieldValue name) := by
  unfold readFieldValue
  split_ifs with hhost hport hverifyTls
  · subst hhost
    exact (hostText_reads.image Field.host).congr fieldText_host
  · subst hport
    exact (portText_reads.image Field.port).congr fieldText_port
  · subst hverifyTls
    exact (flagText_reads.image Field.verifyTls).congr fieldText_verifyTls
  · exact (passes_reads.image fun _ => Field.other name).congr (fieldText_other hhost hport hverifyTls)

theorem readFieldValue_append (name : String) (before s : List UInt8) (f : Field) (rest : List UInt8)
    (hbefore : Blank before) (hs : FieldText name s f) (hrest : Stops rest) :
    readFieldValue name (before ++ (s ++ rest)) = .ok (f, rest) := by
  have hread : readFieldValue name (s ++ rest) = .ok (f, rest) := (fieldText_reads name).append hs hrest
  unfold readFieldValue at hread ⊢
  split_ifs at hread ⊢ with hhost hport hverifyTls
  · simpa only [readImage, readHost, skipSpace_append hbefore, refuse_skipSpace hbefore] using hread
  · simpa only [readImage, readPort, skipSpace_append hbefore, refuse_skipSpace hbefore] using hread
  · simpa only [readImage, readFlag, skipSpace_append hbefore, refuse_skipSpace hbefore] using hread
  · -- How deep a value may be nested depends on the length of the text, so the two readings differ.
    obtain ⟨-, hpasses, rfl⟩ := (fieldText_other hhost hport hverifyTls s f).mp hs
    simp only [readImage, readSkipped, skipValue_append hbefore hpasses hrest]
    rfl

theorem memberText_reads : Reads MemberText readField :=
  named_reads (fun _ _ _ => readString_eq_ok_iff) fieldText_reads readFieldValue_append

end KeyApproval.Endpoint
