import KeyApproval.Proofs.EndpointMembers
import KeyApproval.Proofs.JsonWriting

/-!
# Endpoints in JSON

An endpoint is read from the texts of its grammar and from no others. What is written of an endpoint is one
of them, so reading it gives the endpoint back.
-/

namespace KeyApproval.Endpoint

open Json Text.Utf8

/-! ### Objects -/

/-- Takes a member up, of whose name there must be none yet. -/
def Members.enter (m : Members) : Field → Option Members
  | .host h => if m.host.isSome then none else some { m with host := some h }
  | .port p => if m.port.isSome then none else some { m with port := some p }
  | .verifyTls b => if m.verifyTls.isSome then none else some { m with verifyTls := some b }
  | .other _ => some m

def Members.enterAll : Members → List Field → Option Members := List.foldlM Members.enter

theorem readImage_eq_ok_iff {α β : Type} {f : α → β} {reader : List UInt8 → Except Json.Error (Found α)}
    {s : List UInt8} {b : β} {rest : List UInt8} :
    readImage f reader s = .ok (b, rest) ↔ ∃ a, reader s = .ok (a, rest) ∧ b = f a := by
  constructor
  · intro h
    obtain ⟨⟨a, after⟩, hread, h⟩ := bind_eq_ok_iff.mp h
    cases h
    exact ⟨a, hread, rfl⟩
  · rintro ⟨a, hread, rfl⟩
    exact bind_eq_ok_iff.mpr ⟨(a, rest), hread, rfl⟩

/-- Reads the value of one member, unless it was met before. -/
def readSlot {α : Type} (taken : Bool) (set : α → Members) (reader : List UInt8 → Except Json.Error (Found α))
    (s : List UInt8) : Except Json.Error (Found Members) :=
  if taken then .error .wrongShape
  else do
    let (v, rest) ← reader (← readColon s)
    return (set v, rest)

theorem readSlot_eq_ok_iff {α : Type} {taken : Bool} {set : α → Members}
    {reader : List UInt8 → Except Json.Error (Found α)} {field : α → Field} {m : Members}
    (henter : ∀ v, m.enter (field v) = if taken then none else some (set v)) {s : List UInt8} {m' : Members}
    {rest : List UInt8} :
    readSlot taken set reader s = .ok (m', rest) ↔
      ∃ t f, readColon s = .ok t ∧ readImage field reader t = .ok (f, rest) ∧ m.enter f = some m' := by
  simp only [readImage_eq_ok_iff]
  unfold readSlot
  constructor
  · intro h
    split_ifs at h with htaken
    obtain ⟨t, hcolon, h⟩ := bind_eq_ok_iff.mp h
    obtain ⟨⟨v, after⟩, hread, h⟩ := bind_eq_ok_iff.mp h
    cases h
    exact ⟨t, _, hcolon, ⟨v, hread, rfl⟩, (henter v).trans (if_neg htaken)⟩
  · rintro ⟨t, _, hcolon, ⟨v, hread, rfl⟩, h⟩
    rw [henter] at h
    split_ifs at h with htaken
    cases h
    rw [if_neg htaken]
    exact bind_eq_ok_iff.mpr ⟨t, hcolon, bind_eq_ok_iff.mpr ⟨_, hread, rfl⟩⟩

theorem Members.readMember_host (m : Members) (s : List UInt8) :
    m.readMember "host" s = readSlot m.host.isSome (fun v => { m with host := some v }) readHost s := by
  unfold Members.readMember
  cases m.host <;> rfl

theorem Members.readMember_port (m : Members) (s : List UInt8) :
    m.readMember "port" s = readSlot m.port.isSome (fun v => { m with port := some v }) readPort s := by
  unfold Members.readMember
  cases m.port <;> rfl

theorem Members.readMember_verifyTls (m : Members) (s : List UInt8) :
    m.readMember "verify_tls" s =
      readSlot m.verifyTls.isSome (fun v => { m with verifyTls := some v }) readFlag s := by
  unfold Members.readMember
  cases m.verifyTls <;> rfl

theorem Members.readMember_other (m : Members) {name : String} (hhost : name ≠ "host") (hport : name ≠ "port")
    (hverifyTls : name ≠ "verify_tls") (s : List UInt8) :
    m.readMember name s = readSlot false (fun _ => m) readSkipped s := by
  unfold Members.readMember readSlot readSkipped
  rw [if_neg (by simpa using hhost), if_neg (by simpa using hport), if_neg (by simpa using hverifyTls)]
  cases readColon s with
  | error e => rfl
  | ok t =>
    change (skipValue t >>= fun rest => pure (m, rest)) = (skipValue t >>= _) >>= _
    cases skipValue t <;> rfl

theorem Members.readMember_eq_ok_iff {m m' : Members} {name : String} {s rest : List UInt8} :
    m.readMember name s = .ok (m', rest) ↔
      ∃ t f, readColon s = .ok t ∧ readFieldValue name t = .ok (f, rest) ∧ m.enter f = some m' := by
  unfold readFieldValue
  split_ifs with hhost hport hverifyTls
  · rw [hhost, Members.readMember_host]
    exact readSlot_eq_ok_iff fun _ => rfl
  · rw [hport, Members.readMember_port]
    exact readSlot_eq_ok_iff fun _ => rfl
  · rw [hverifyTls, Members.readMember_verifyTls]
    exact readSlot_eq_ok_iff fun _ => rfl
  · rw [Members.readMember_other m hhost hport hverifyTls]
    exact readSlot_eq_ok_iff fun _ => rfl

theorem exists_readMember_iff {m m' : Members} {s rest : List UInt8} :
    (∃ found, readName .checking s = .ok found ∧ m.readMember found.1 found.2 = .ok (m', rest)) ↔
      ∃ f, readField s = .ok (f, rest) ∧ m.enter f = some m' := by
  simp only [Members.readMember_eq_ok_iff]
  constructor
  · rintro ⟨found, hname, t, f, hcolon, hread, henter⟩
    exact ⟨f, bind_eq_ok_iff.mpr ⟨found, hname, bind_eq_ok_iff.mpr ⟨t, hcolon, hread⟩⟩, henter⟩
  · rintro ⟨f, hread, henter⟩
    obtain ⟨found, hname, hread⟩ := bind_eq_ok_iff.mp hread
    obtain ⟨t, hcolon, hread⟩ := bind_eq_ok_iff.mp hread
    exact ⟨found, hname, t, f, hcolon, hread, henter⟩

theorem readItems_succ_eq_ok_iff {count : Nat} {s : List UInt8} {fields : List Field} {rest : List UInt8} :
    readItems readField 0x7D (count + 1) s = .ok (fields, rest) ↔
      ∃ f after, readField s = .ok (f, after) ∧
        (skipSpace after = 0x7D :: rest ∧ fields = [f] ∨
          ∃ tail others, skipSpace after = 0x2C :: tail ∧
            readItems readField 0x7D count (skipSpace tail) = .ok (others, rest) ∧ fields = f :: others) := by
  constructor
  · intro h
    obtain ⟨⟨f, after⟩, hread, h⟩ := bind_eq_ok_iff.mp h
    refine ⟨f, after, hread, ?_⟩
    dsimp only at h
    split at h
    · cases h
    · next b tail hskip =>
      split_ifs at h with hclose hcomma
      · cases h
        exact .inl ⟨by rw [hskip, eq_of_beq hclose], rfl⟩
      · obtain ⟨⟨others, rest'⟩, hothers, h⟩ := bind_eq_ok_iff.mp h
        cases h
        exact .inr ⟨tail, others, by rw [hskip, eq_of_beq hcomma], hothers, rfl⟩
  · rintro ⟨f, after, hread, ⟨hskip, rfl⟩ | ⟨tail, others, hskip, hothers, rfl⟩⟩
    · exact (readItems_of_read hread hskip count).trans (if_pos rfl)
    · rw [readItems_of_read hread hskip, if_neg (by decide), hothers]
      rfl

theorem readMembers_succ_eq_ok_iff {count : Nat} {m : Members} {s : List UInt8} {e : Endpoint}
    {rest : List UInt8} :
    readMembers (count + 1) m s = .ok (e, rest) ↔
      ∃ f m' after, readField s = .ok (f, after) ∧ m.enter f = some m' ∧
        (skipSpace after = 0x7D :: rest ∧ m'.complete = .ok e ∨
          ∃ tail, skipSpace after = 0x2C :: tail ∧ readMembers count m' (skipSpace tail) = .ok (e, rest)) := by
  constructor
  · intro h
    obtain ⟨found, hname, h⟩ := bind_eq_ok_iff.mp h
    obtain ⟨⟨m', after⟩, hmember, h⟩ := bind_eq_ok_iff.mp h
    obtain ⟨f, hread, henter⟩ := exists_readMember_iff.mp ⟨found, hname, hmember⟩
    refine ⟨f, m', after, hread, henter, ?_⟩
    dsimp only at h
    split at h
    · cases h
    · next hskip =>
      obtain ⟨e', hcomplete, h⟩ := bind_eq_ok_iff.mp h
      cases h
      exact .inl ⟨hskip, hcomplete⟩
    · next tail hskip => exact .inr ⟨tail, hskip, h⟩
    · cases h
  · rintro ⟨f, m', after, hread, henter, h⟩
    obtain ⟨found, hname, hmember⟩ := exists_readMember_iff.mpr ⟨f, hread, henter⟩
    refine bind_eq_ok_iff.mpr ⟨found, hname, bind_eq_ok_iff.mpr ⟨(m', after), hmember, ?_⟩⟩
    dsimp only
    rcases h with ⟨hskip, hcomplete⟩ | ⟨tail, hskip, hmembers⟩
    · rw [hskip]
      exact bind_eq_ok_iff.mpr ⟨e, hcomplete, rfl⟩
    · rw [hskip]
      exact hmembers

theorem Members.enterAll_cons (m : Members) (f : Field) (fields : List Field) :
    m.enterAll (f :: fields) = (m.enter f).bind (·.enterAll fields) :=
  List.foldlM_cons

/-- Reading members one by one into an endpoint is reading them all and then taking them up in their order. -/
theorem readMembers_eq_ok_iff {count : Nat} {m : Members} {s : List UInt8} {e : Endpoint} {rest : List UInt8} :
    readMembers count m s = .ok (e, rest) ↔
      ∃ fields m', readItems readField 0x7D count s = .ok (fields, rest) ∧ m.enterAll fields = some m' ∧
        m'.complete = .ok e := by
  induction count generalizing m s with
  | zero => simp [readMembers, readItems]
  | succ count ih =>
    simp only [readMembers_succ_eq_ok_iff, readItems_succ_eq_ok_iff, ih]
    constructor
    · rintro ⟨f, m₁, after, hread, henter, ⟨hskip, hcomplete⟩ | ⟨tail, hskip, others, m₂, hothers, hall, hcomplete⟩⟩
      · refine ⟨[f], m₁, ⟨f, after, hread, .inl ⟨hskip, rfl⟩⟩, ?_, hcomplete⟩
        rw [Members.enterAll_cons, henter]
        rfl
      · refine ⟨f :: others, m₂, ⟨f, after, hread, .inr ⟨tail, others, hskip, hothers, rfl⟩⟩, ?_, hcomplete⟩
        rw [Members.enterAll_cons, henter]
        exact hall
    · rintro ⟨_, m₂, ⟨f, after, hread, ⟨hskip, rfl⟩ | ⟨tail, others, hskip, hothers, rfl⟩⟩, hall, hcomplete⟩
      · rw [Members.enterAll_cons] at hall
        obtain ⟨m₁, henter, hall⟩ := Option.bind_eq_some_iff.mp hall
        cases hall
        exact ⟨f, m₂, after, hread, henter, .inl ⟨hskip, hcomplete⟩⟩
      · rw [Members.enterAll_cons] at hall
        obtain ⟨m₁, henter, hall⟩ := Option.bind_eq_some_iff.mp hall
        exact ⟨f, m₁, after, hread, henter, .inr ⟨tail, hskip, others, m₂, hothers, hall, hcomplete⟩⟩

/-- Each member is taken up once at most. -/
theorem Members.enterAll_eq_some_iff {m m' : Members} {fields : List Field} :
    m.enterAll fields = some m' ↔
      m'.host.toList = m.host.toList ++ fields.filterMap Field.host? ∧
      m'.port.toList = m.port.toList ++ fields.filterMap Field.port? ∧
      m'.verifyTls.toList = m.verifyTls.toList ++ fields.filterMap Field.verifyTls? := by
  have hinj {α : Type} {a b : Option α} : a.toList = b.toList ↔ b = a := by
    cases a <;> cases b <;> simp [eq_comm]
  have htwice {α : Type} {a : Option α} {x y : α} {l : List α} : a.toList ≠ [x] ++ y :: l := by
    cases a <;> simp
  induction fields generalizing m with
  | nil =>
    obtain ⟨host, port, verifyTls⟩ := m
    obtain ⟨host', port', verifyTls'⟩ := m'
    simp only [List.filterMap_nil, List.append_nil, hinj]
    exact Option.some_inj.trans (by rw [Members.mk.injEq])
  | cons f fields ih =>
    obtain ⟨host, port, verifyTls⟩ := m
    rw [Members.enterAll_cons]
    cases f with
    | other => exact ih
    | host h =>
      cases host with
      | none => exact ih
      | some => exact iff_of_false (by simp [Members.enter]) fun hlists => htwice hlists.1
    | port p =>
      cases port with
      | none => exact ih
      | some => exact iff_of_false (by simp [Members.enter]) fun hlists => htwice hlists.2.1
    | verifyTls b =>
      cases verifyTls with
      | none => exact ih
      | some => exact iff_of_false (by simp [Members.enter]) fun hlists => htwice hlists.2.2

theorem Members.complete_eq_ok_iff {m : Members} {e : Endpoint} :
    m.complete = .ok e ↔ m = ⟨some e.host, some e.port, some e.verifyTls⟩ := by
  obtain ⟨host, port, verifyTls⟩ := m
  obtain ⟨h, p, b⟩ := e
  cases host <;> cases port <;> cases verifyTls <;> simp [Members.complete]

theorem exists_enterAll_iff {fields : List Field} {e : Endpoint} :
    (∃ m, ({} : Members).enterAll fields = some m ∧ m.complete = .ok e) ↔ Lists fields e := by
  simp only [Members.complete_eq_ok_iff, exists_eq_right, Members.enterAll_eq_some_iff]
  constructor
  · rintro ⟨hhost, hport, hverifyTls⟩
    exact ⟨hhost.symm, hport.symm, hverifyTls.symm⟩
  · rintro ⟨hhost, hport, hverifyTls⟩
    exact ⟨hhost.symm, hport.symm, hverifyTls.symm⟩

theorem readObject_eq_ok_iff {s : List UInt8} {e : Endpoint} {rest : List UInt8} :
    readObject s = .ok (e, rest) ↔
      ∃ inner fields, s = inner ++ 0x7D :: rest ∧ Items MemberText inner fields ∧ Lists fields e := by
  constructor
  · intro h
    obtain ⟨before, hs, hbefore⟩ := exists_blank s
    unfold readObject at h
    split at h
    · cases h
    · cases h
    · obtain ⟨fields, m, hread, hall, hcomplete⟩ := readMembers_eq_ok_iff.mp h
      obtain ⟨inner, hinner, hitems⟩ := exists_of_readItems memberText_reads hread
      refine ⟨before ++ inner, fields, ?_, hitems.blank_append hbefore, exists_enterAll_iff.mp ⟨m, hall, hcomplete⟩⟩
      rw [List.append_assoc, ← hinner, ← hs]
  · rintro ⟨inner, fields, rfl, hitems, hlists⟩
    obtain ⟨m, hall, hcomplete⟩ := exists_enterAll_iff.mpr hlists
    obtain ⟨before, b, t, rfl, hbefore, hspace, -, hb, hitems⟩ := hitems.exists_trimmed memberText_reads
    have hskip : skipSpace (before ++ b :: t ++ 0x7D :: rest) = b :: (t ++ 0x7D :: rest) := by
      rw [List.append_assoc, skipSpace_append hbefore]
      exact skipSpace_cons hspace _
    have hcount : fields.length ≤ (b :: (t ++ 0x7D :: rest)).length + 1 := by
      have := hitems.length_le
      simp only [List.length_cons, List.length_append] at this ⊢
      omega
    have hread := readItems_append memberText_reads (.inr rfl) hitems hcount rest
    rw [List.cons_append, skipSpace_cons hspace] at hread
    unfold readObject
    split
    · next h => cases hskip.symm.trans h
    · next h => exact absurd (List.cons.inj (hskip.symm.trans h)).1 hb
    · rw [hskip]
      exact readMembers_eq_ok_iff.mpr ⟨fields, m, hread, hall, hcomplete⟩

/-! ### Arrays -/

theorem nextItem_first {before : List UInt8} (hbefore : Blank before) {b : UInt8} (hspace : isSpace b = false)
    (hb : b ≠ 0x5D) (t : List UInt8) : nextItem true (before ++ b :: t) = .ok (b :: t) := by
  have hskip : skipSpace (before ++ b :: t) = b :: t := by rw [skipSpace_append hbefore, skipSpace_cons hspace]
  unfold nextItem
  split
  · next h => cases hskip.symm.trans h
  · next h => exact absurd (List.cons.inj (hskip.symm.trans h)).1 hb
  · next h => rw [if_pos rfl, ← h, hskip]

theorem nextItem_more {before after : List UInt8} (hbefore : Blank before) (hafter : Blank after) {b : UInt8}
    (hspace : isSpace b = false) (hb : b ≠ 0x5D) (t : List UInt8) :
    nextItem false (before ++ 0x2C :: (after ++ b :: t)) = .ok (b :: t) := by
  have hskip : skipSpace (before ++ 0x2C :: (after ++ b :: t)) = 0x2C :: (after ++ b :: t) := by
    rw [skipSpace_append hbefore, skipSpace_cons (by decide)]
  have hitem : skipSpace (after ++ b :: t) = b :: t := by rw [skipSpace_append hafter, skipSpace_cons hspace]
  unfold nextItem
  split
  · next h => cases hskip.symm.trans h
  · next h => exact absurd (List.cons.inj (hskip.symm.trans h)).1 (by decide)
  · next h =>
    obtain ⟨rfl, rfl⟩ := List.cons.inj (hskip.symm.trans h)
    rw [if_neg (by decide), if_pos (beq_self_eq_true _)]
    split
    · next h => cases hitem.symm.trans h
    · next h => exact absurd (List.cons.inj (hitem.symm.trans h)).1 hb
    · rw [hitem]

theorem exists_of_nextItem_first {s t : List UInt8} (h : nextItem true s = .ok t) :
    ∃ before, s = before ++ t ∧ Blank before := by
  obtain ⟨before, hs, hbefore⟩ := exists_blank s
  unfold nextItem at h
  split at h
  · cases h
  · cases h
  · next hskip =>
    rw [if_pos rfl] at h
    cases h
    rw [hskip] at hs
    exact ⟨before, hs, hbefore⟩

theorem exists_of_nextItem_more {s t : List UInt8} (h : nextItem false s = .ok t) :
    ∃ before after, s = before ++ 0x2C :: (after ++ t) ∧ Blank before ∧ Blank after := by
  obtain ⟨before, hs, hbefore⟩ := exists_blank s
  unfold nextItem at h
  split at h
  · cases h
  · cases h
  · next b rest _ hskip =>
    rw [if_neg (by decide)] at h
    split_ifs at h with hcomma
    obtain ⟨after, hrest, hafter⟩ := exists_blank rest
    split at h
    · cases h
    · cases h
    · cases h
      rw [hskip, eq_of_beq hcomma, hrest] at hs
      exact ⟨before, after, hs, hbefore, hafter⟩

section Items

variable {α : Type} {item : List UInt8 → α → Prop} {reader : List UInt8 → Except Json.Error (Found α)}

theorem readFirst_append (hreads : Reads item reader) {before s rest : List UInt8} {a : α}
    (hbefore : Blank before) (hs : item s a) (hrest : Stops rest) :
    ∃ t, nextItem true (before ++ (s ++ rest)) = .ok t ∧ reader t = .ok (a, rest) := by
  have hread := hreads.append hs hrest
  obtain ⟨b, t, rfl, hspace, hb, -⟩ := hreads.starts hs
  exact ⟨b :: t ++ rest, nextItem_first hbefore hspace hb (t ++ rest), hread⟩

theorem readMore_append (hreads : Reads item reader) {before after s rest : List UInt8} {a : α}
    (hbefore : Blank before) (hafter : Blank after) (hs : item s a) (hrest : Stops rest) :
    ∃ t, nextItem false (before ++ 0x2C :: (after ++ (s ++ rest))) = .ok t ∧ reader t = .ok (a, rest) := by
  have hread := hreads.append hs hrest
  obtain ⟨b, t, rfl, hspace, hb, -⟩ := hreads.starts hs
  exact ⟨b :: t ++ rest, nextItem_more hbefore hafter hspace hb (t ++ rest), hread⟩

theorem exists_of_readFirst (hreads : Reads item reader) {s t rest : List UInt8} {a : α}
    (hnext : nextItem true s = .ok t) (hread : reader t = .ok (a, rest)) :
    ∃ before text, s = before ++ (text ++ rest) ∧ Blank before ∧ item text a := by
  obtain ⟨before, rfl, hbefore⟩ := exists_of_nextItem_first hnext
  obtain ⟨before', text, rfl, hbefore', htext⟩ := hreads.sound hread
  exact ⟨before ++ before', text, by simp, hbefore.append hbefore', htext⟩

theorem exists_of_readMore (hreads : Reads item reader) {s t rest : List UInt8} {a : α}
    (hnext : nextItem false s = .ok t) (hread : reader t = .ok (a, rest)) :
    ∃ before after text, s = before ++ 0x2C :: (after ++ (text ++ rest)) ∧ Blank before ∧ Blank after ∧
      item text a := by
  obtain ⟨before, after, rfl, hbefore, hafter⟩ := exists_of_nextItem_more hnext
  obtain ⟨after', text, rfl, hafter', htext⟩ := hreads.sound hread
  exact ⟨before, after ++ after', text, by simp, hbefore, hafter.append hafter', htext⟩

end Items

theorem exists_items_of_readArray {s : List UInt8} {e : Endpoint} {rest : List UInt8}
    (h : readArray s = .ok (e, rest)) : ∃ inner, s = inner ++ 0x5D :: rest ∧
      Items ValueText inner [.host e.host, .port e.port, .verifyTls e.verifyTls] := by
  obtain ⟨t₁, hnext₁, h₁⟩ := bind_eq_ok_iff.mp h
  obtain ⟨⟨host, r₁⟩, hread₁, h₁⟩ := bind_eq_ok_iff.mp h₁
  obtain ⟨t₂, hnext₂, h₂⟩ := bind_eq_ok_iff.mp h₁
  obtain ⟨⟨port, r₂⟩, hread₂, h₂⟩ := bind_eq_ok_iff.mp h₂
  obtain ⟨t₃, hnext₃, h₃⟩ := bind_eq_ok_iff.mp h₂
  obtain ⟨⟨verifyTls, r₃⟩, hread₃, h₃⟩ := bind_eq_ok_iff.mp h₃
  obtain ⟨before₁, text₁, rfl, hbefore₁, htext₁⟩ := exists_of_readFirst hostText_reads hnext₁ hread₁
  obtain ⟨after₁, before₂, text₂, rfl, hafter₁, hbefore₂, htext₂⟩ :=
    exists_of_readMore portText_reads hnext₂ hread₂
  obtain ⟨after₂, before₃, text₃, rfl, hafter₂, hbefore₃, htext₃⟩ :=
    exists_of_readMore flagText_reads hnext₃ hread₃
  obtain ⟨after₃, hr₃, hafter₃⟩ := exists_blank r₃
  dsimp only at h₃
  split at h₃
  · cases h₃
  · next hskip =>
    cases h₃
    rw [hskip] at hr₃
    refine ⟨_, ?_, .more hbefore₁ htext₁ hafter₁
      (.more hbefore₂ htext₂ hafter₂ (.last hbefore₃ htext₃ hafter₃))⟩
    rw [hr₃]
    simp
  · cases h₃

theorem readArray_append {inner : List UInt8} {e : Endpoint}
    (hitems : Items ValueText inner [.host e.host, .port e.port, .verifyTls e.verifyTls]) (rest : List UInt8) :
    readArray (inner ++ 0x5D :: rest) = .ok (e, rest) := by
  obtain ⟨host, port, verifyTls⟩ := e
  cases hitems with
  | @more before₁ text₁ after₁ _ _ _ hbefore₁ htext₁ hafter₁ hitems =>
  cases hitems with
  | @more before₂ text₂ after₂ _ _ _ hbefore₂ htext₂ hafter₂ hitems =>
  cases hitems with
  | @more _ _ _ _ _ _ _ _ _ hitems => cases hitems
  | @last before₃ text₃ after₃ _ hbefore₃ htext₃ hafter₃ =>
  have hclose : Stops (after₃ ++ 0x5D :: rest) := stops_append hafter₃ (Closes.stops (.inl rfl) rest)
  obtain ⟨t₁, hnext₁, hread₁⟩ := readFirst_append hostText_reads hbefore₁ htext₁
    (stops_append hafter₁ (stops_comma (before₂ ++ (text₂ ++ (after₂ ++ 0x2C :: (before₃ ++ (text₃ ++
      (after₃ ++ 0x5D :: rest))))))))
  obtain ⟨t₂, hnext₂, hread₂⟩ := readMore_append portText_reads hafter₁ hbefore₂ htext₂
    (stops_append hafter₂ (stops_comma (before₃ ++ (text₃ ++ (after₃ ++ 0x5D :: rest)))))
  obtain ⟨t₃, hnext₃, hread₃⟩ := readMore_append flagText_reads hafter₂ hbefore₃ htext₃ hclose
  simp only [List.append_assoc, List.cons_append]
  refine bind_eq_ok_iff.mpr ⟨t₁, hnext₁, bind_eq_ok_iff.mpr ⟨_, hread₁, ?_⟩⟩
  refine bind_eq_ok_iff.mpr ⟨t₂, hnext₂, bind_eq_ok_iff.mpr ⟨_, hread₂, ?_⟩⟩
  refine bind_eq_ok_iff.mpr ⟨t₃, hnext₃, bind_eq_ok_iff.mpr ⟨_, hread₃, ?_⟩⟩
  dsimp only
  rw [skipSpace_append hafter₃, skipSpace_cons (by decide)]
  rfl

/-! ### Texts -/

/-- An endpoint is read from the texts that give it, and from no others. -/
theorem ofJson_eq_ok_iff {text : List UInt8} {e : Endpoint} : ofJson text = .ok e ↔ e.IsGivenBy text := by
  constructor
  · intro h
    obtain ⟨before, htext, hbefore⟩ := exists_blank text
    unfold ofJson at h
    split at h
    · next hskip =>
      rw [hskip] at htext
      obtain ⟨⟨e', rest⟩, hread, h⟩ := bind_eq_ok_iff.mp h
      obtain ⟨⟨⟩, hend, h⟩ := bind_eq_ok_iff.mp h
      cases h
      obtain ⟨inner, fields, rfl, hitems, hlists⟩ := readObject_eq_ok_iff.mp hread
      exact ⟨before, _, rest, by rw [htext]; simp, hbefore, readEnd_eq_ok_iff.mp hend, .object hitems hlists⟩
    · next hskip =>
      rw [hskip] at htext
      obtain ⟨⟨e', rest⟩, hread, h⟩ := bind_eq_ok_iff.mp h
      obtain ⟨⟨⟩, hend, h⟩ := bind_eq_ok_iff.mp h
      cases h
      obtain ⟨inner, rfl, hitems⟩ := exists_items_of_readArray hread
      exact ⟨before, _, rest, by rw [htext]; simp, hbefore, readEnd_eq_ok_iff.mp hend, .array hitems⟩
    · obtain ⟨found, hread, h⟩ := bind_eq_ok_iff.mp h
      exact absurd hread (refuse_ne_ok _ _)
  · rintro ⟨before, inner, after, rfl, hbefore, hafter, hinner⟩
    have hend : (readEnd after >>= fun _ => pure e) = .ok e :=
      bind_eq_ok_iff.mpr ⟨(), readEnd_eq_ok_iff.mpr hafter, rfl⟩
    unfold ofJson
    cases hinner with
    | @object s fields _ hitems hlists =>
      rw [List.append_assoc, List.cons_append, skipSpace_append hbefore, skipSpace_cons (by decide)]
      exact bind_eq_ok_iff.mpr ⟨(e, after), readObject_eq_ok_iff.mpr ⟨s, fields, rfl, hitems, hlists⟩, hend⟩
    | @array s _ hitems =>
      rw [List.append_assoc, List.cons_append, skipSpace_append hbefore, skipSpace_cons (by decide)]
      exact bind_eq_ok_iff.mpr ⟨(e, after), readArray_append hitems after, hend⟩

/-! ### Writing -/

theorem encodeChar_digitChar : ∀ d : Fin 10, encodeChar (Nat.digitChar d) = [(0x30 + d.val).toUInt8] := by
  decide

/-- The digits of a number have no zero in front, and they stand for it. -/
theorem exists_whole_toDigits (n : Nat) :
    ∃ digits, Whole (encode (Nat.toDigits 10 n)) digits ∧ Text.digitsValue 10 digits = n := by
  induction n using Nat.strongRecOn with
  | ind n ih =>
    have hdigit (d : Nat) (hd : d < 10) : Digits (encode [Nat.digitChar d]) [d] := by
      have hchar := encodeChar_digitChar ⟨d, hd⟩
      have hbyte : ((0x30 + d).toUInt8).toNat = 0x30 + d := by
        rw [Nat.toUInt8_eq, UInt8.toNat_ofNat_of_lt' (Nat.lt_trans (by omega) (show 60 < UInt8.size by decide))]
      simp only [encode, List.flatMap_cons, List.flatMap_nil, List.append_nil, hchar]
      refine ⟨List.cons_ne_nil _ _, ?_, ?_⟩
      · intro b hb
        obtain rfl := List.mem_singleton.mp hb
        omega
      · rw [List.map_singleton, hbyte, Nat.add_sub_cancel_left]
    rw [Nat.toDigits_eq_if (by decide)]
    split_ifs with hn
    · refine ⟨[n], ⟨hdigit n hn, ?_⟩, by simp [Text.digitsValue]⟩
      intro hzero
      exact congrArg (fun d => [d]) (Option.some.inj hzero)
    · obtain ⟨digits, hwhole, hvalue⟩ := ih (n / 10) (by omega)
      have hlast := hdigit (n % 10) (Nat.mod_lt n (by decide))
      refine ⟨digits ++ [n % 10], ⟨⟨?_, ?_, ?_⟩, ?_⟩, ?_⟩
      · rw [encode_append]
        exact List.append_ne_nil_of_left_ne_nil hwhole.ne_nil _
      · rw [encode_append]
        exact fun b hb => (List.mem_append.mp hb).elim (hwhole.range b) (hlast.range b)
      · rw [encode_append, List.map_append, ← hwhole.values, ← hlast.values]
      · intro hzero
        have hne : digits ≠ [] := fun h =>
          hwhole.ne_nil (List.map_eq_nil_iff.mp (hwhole.values.symm.trans h))
        obtain ⟨d, others, rfl⟩ := List.exists_cons_of_ne_nil hne
        rw [hwhole.shortest hzero] at hvalue
        have : n / 10 = 0 := hvalue.symm
        omega
      · have hconcat : Text.digitsValue 10 (digits ++ [n % 10]) = Text.digitsValue 10 digits * 10 + n % 10 := by
          simp [Text.digitsValue, List.foldl_append]
        rw [hconcat, hvalue, Nat.div_add_mod']

theorem portText_written (p : UInt16) : ValueText (encodeString (toString p.toNat)) (.port p) := by
  obtain ⟨digits, hwhole, hvalue⟩ := exists_whole_toDigits p.toNat
  rw [encodeString, Nat.toString_eq_repr, Nat.toList_repr]
  exact .port hwhole hvalue

theorem flagText_written (b : Bool) : ValueText (encodeString (writeBool b)) (.verifyTls b) := by
  cases b with
  | false => exact .verifyTls .false
  | true => exact .verifyTls .true

theorem hostText_written (h : String) : ValueText (encodeString (writeString h)) (.host h) := by
  rw [encodeString_writeString]
  exact .host (spells_written h.toList)

theorem memberText_written {raw s : List UInt8} {f : Field} (hname : Spells raw f.name.toList)
    (hs : ValueText s f) : MemberText (0x22 :: raw ++ 0x22 :: 0x3A :: s) f := by
  exact .mk hname blank_nil blank_nil ⟨rfl, hs⟩

/-- What is written of an endpoint is an object with its members in their order and without blanks. -/
theorem form_toJson (e : Endpoint) : Form (encodeString e.toJson) e := by
  have hhostName : Spells [0x68, 0x6F, 0x73, 0x74] "host".toList := spells_written ['h', 'o', 's', 't']
  have hportName : Spells [0x70, 0x6F, 0x72, 0x74] "port".toList := spells_written ['p', 'o', 'r', 't']
  have hflagName : Spells [0x76, 0x65, 0x72, 0x69, 0x66, 0x79, 0x5F, 0x74, 0x6C, 0x73] "verify_tls".toList :=
    spells_written ['v', 'e', 'r', 'i', 'f', 'y', '_', 't', 'l', 's']
  have hhost := memberText_written hhostName (hostText_written e.host)
  have hport := memberText_written hportName (portText_written e.port)
  have hflag := memberText_written hflagName (flagText_written e.verifyTls)
  have hitems := Items.more blank_nil hhost blank_nil (.more blank_nil hport blank_nil (.last blank_nil hflag blank_nil))
  have hform : Form _ e := .object hitems ⟨rfl, rfl, rfl⟩
  have hhost' : encodeString "\"host\":" = [0x22, 0x68, 0x6F, 0x73, 0x74, 0x22, 0x3A] := by decide
  have hport' : encodeString ",\"port\":" = [0x2C, 0x22, 0x70, 0x6F, 0x72, 0x74, 0x22, 0x3A] := by decide
  have hflag' : encodeString ",\"verify_tls\":" = [0x2C, 0x22, 0x76, 0x65, 0x72, 0x69, 0x66, 0x79, 0x5F, 0x74,
    0x6C, 0x73, 0x22, 0x3A] := by decide
  rw [toJson]
  simp only [encodeString_braced, encodeString_append, hhost', hport', hflag']
  simpa only [List.append_assoc, List.cons_append, List.nil_append, List.append_nil] using hform

theorem isGivenBy_toJson (e : Endpoint) : e.IsGivenBy (encodeString e.toJson) := by
  exact ⟨[], _, [], by simp, blank_nil, blank_nil, form_toJson e⟩

/-- Reading an endpoint undoes writing it. A text is read as an endpoint exactly if it gives it, as an array
or as an object in which members that mean nothing may hold any value; what was read so is the same, and
written the same, when it is written and read again. -/
theorem json_round_trips :
    (∀ e : Endpoint, ofJson e.toJson.toUTF8.data.toList = .ok e) ∧
    (∀ text e, ofJson text = .ok e ↔ e.IsGivenBy text) ∧
    (∀ name, name ∉ ["host", "port", "verify_tls"] → ∀ depth s v, Denotes depth s v →
      ValueText s (.other name)) ∧
    ∀ text e, ofJson text = .ok e →
      ∃ again, ofJson e.toJson.toUTF8.data.toList = .ok again ∧ again = e ∧ again.toJson = e.toJson := by
  have hread (e : Endpoint) : ofJson e.toJson.toUTF8.data.toList = .ok e := by
    rw [← encodeString_eq]
    exact ofJson_eq_ok_iff.mpr (isGivenBy_toJson e)
  refine ⟨hread, fun text e => ofJson_eq_ok_iff, fun name hname depth s v hs => ?_, fun text e _ =>
    ⟨e, hread e, rfl, rfl⟩⟩
  simp only [List.mem_cons, List.not_mem_nil, or_false, not_or] at hname
  exact .other hname.1 hname.2.1 hname.2.2 hs.passes

example : ofJson (encodeString "[ \"\\u00e9\" , 65535 ,true]") = .ok ⟨"é", 65535, true⟩ := by decide +kernel

end KeyApproval.Endpoint
