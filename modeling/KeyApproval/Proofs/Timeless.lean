import KeyApproval.Proofs.Exchanges
import KeyApproval.Proofs.SharedSecret

/-!
# Transports without a clock

The date of a request can always be sent, and of its signature only the digits change with the date. So whether
the transport lets a request pass does not depend on when it is made: what was sent once can be sent again.
-/

namespace KeyApproval

open Http

theorem Http.isValueChar_of_isDigit {c : Char} (h : c.isDigit = true) : isValueChar c = true := by
  have hrange : 48 ≤ c.toNat ∧ c.toNat ≤ 57 := Char.isDigit_iff_toNat.mp h
  have hblank : ' ' ≤ c := UInt32.le_iff_toNat_le.mpr (Nat.le_trans (by decide) hrange.1)
  have hdelete : c ≠ '\x7f' := by
    rintro rfl
    exact absurd hrange.2 (by decide)
  simp [isValueChar, hblank, hdelete]

theorem Text.all_isValueChar_toString (n : Nat) : (toString n).toList.all isValueChar = true := by
  rw [Nat.toString_eq_repr, Nat.toList_repr]
  exact List.all_eq_true.mpr fun c hc =>
    isValueChar_of_isDigit (Nat.isDigit_of_mem_toDigits (by decide) (by decide) hc)

theorem Text.all_isValueChar_twoDigits (n : Nat) : (twoDigits n).toList.all isValueChar = true := by
  unfold twoDigits
  split
  · rw [String.toList_append, List.all_append, all_isValueChar_toString]
    decide
  · exact all_isValueChar_toString n

namespace Calendar.HttpDate

theorem all_isValueChar_yearText (year : Int) : (yearText year).toList.all isValueChar = true := by
  have hzeros (n : Nat) : (List.replicate n '0').all isValueChar = true :=
    List.all_eq_true.mpr fun c hc => by rw [List.eq_of_mem_replicate hc]; decide
  have hdigits : (Text.padLeft 4 year.natAbs).toList.all isValueChar = true := by
    rw [Text.padLeft, String.toList_append, String.toList_ofList, List.all_append, hzeros,
      Text.all_isValueChar_toString]
    rfl
  unfold yearText
  dsimp only
  split
  · rw [String.toList_append, List.all_append, hdigits]
    decide
  · split
    · rw [String.toList_append, List.all_append, hdigits]
      decide
    · exact hdigits

theorem all_isValueChar_getD (names : List String)
    (h : ∀ name ∈ names, name.toList.all isValueChar = true) (i : Nat) :
    (names.getD i "").toList.all isValueChar = true := by
  rw [List.getD_eq_getElem?_getD]
  cases hname : names[i]? with
  | none => rfl
  | some name => exact h name (List.mem_of_getElem? hname)

/-- A date can always be sent in a header. -/
theorem all_isValueChar_render (t : Instant) : (render t).toList.all isValueChar = true := by
  have hweekday := all_isValueChar_getD weekdayNames (by decide)
  have hmonth := all_isValueChar_getD monthNames (by decide)
  have hmarks : ", ".toList.all isValueChar = true ∧ " ".toList.all isValueChar = true ∧
      ":".toList.all isValueChar = true ∧ " GMT".toList.all isValueChar = true := by decide
  simp only [render, String.toList_append, List.all_append, hweekday, hmonth, hmarks,
    all_isValueChar_yearText, Text.all_isValueChar_twoDigits, Bool.and_self]

end Calendar.HttpDate

/-- A request that a transport lets pass may be made again at any other time. -/
def Transport.IsTimeless (t : Transport) : Prop :=
  ∀ (c : Client) method url body now now', t.check (c.requestTo method url body now) = .ok () →
    t.check (c.requestTo method url body now') = .ok ()

/-- At another time another signature is made, and all else of the authorization stays the same. -/
theorem Client.authorization_sameButSignature (c : Client) (body : Option String)
    (now now' : Calendar.Instant) :
    (⟨"Authorization", (c.authorization body now).text⟩ : Header).SameButSignature
      ⟨"Authorization", (c.authorization body now').text⟩ := by
  have hnames (t : Calendar.Instant) : (c.authorization body t).headers =
      String.ofList (Text.join ' ' ["date".toList]) := canonicalNames_signedHeaders t
  have hcode (t : Calendar.Instant) : Signing.IsCode (c.authorization body t).signature :=
    Signing.isCode_signature _ _
  rw [Authorization.text_eq, Authorization.text_eq, hnames, hnames]
  exact .signed (hcode now) (hcode now')

theorem Request.check_requestTo (c : Client) (method : Method) (url : Url) (body : Option String)
    (now now' : Calendar.Instant) :
    (c.requestTo method url body now).check = (c.requestTo method url body now').check := by
  have hname : isToken "Date" = true := by decide
  have hdate (t : Calendar.Instant) : (Signing.dateHeader t).wireFault? = none := by
    simp only [Header.wireFault?, Signing.dateHeader, hname, Calendar.HttpDate.all_isValueChar_render]
    rfl
  have hsigned := (c.authorization_sameButSignature body now now').wireFault?
  simp only [Request.check, Headers.wireFault?, Client.toList_requestTo, List.findSome?_cons, hdate,
    Option.map_none]
  rw [hsigned]
  cases (⟨"Authorization", (c.authorization body now').text⟩ : Header).wireFault? <;> rfl

/-- The check of the program knows no time. -/
theorem Transport.isTimeless_of_check {t : Transport} (h : t.check = Request.check) : t.IsTimeless := by
  intro c method url body now now' hpassed
  rw [h] at hpassed ⊢
  exact (Request.check_requestTo c method url body now' now).trans hpassed

/-- What was sent once is not barred later. -/
theorem Client.Transmits.not_bars {c : Client} {method : Method} {path : String} {body : Option String}
    {w w' : World} {r : Request} {e : ClientError} (h : c.Transmits method path body w r w')
    (timeless : w.transport.IsTimeless) : ¬c.Bars w.transport method path body e := by
  obtain ⟨now, hprepared⟩ := h.prepared
  obtain ⟨url, hurl, rfl⟩ := prepare_eq_ok_iff.mp hprepared
  rintro ⟨now', hfault | ⟨r', hprepared', hrefused⟩⟩
  · obtain ⟨f, hf⟩ := exists_error_prepare_iff.mp ⟨e, hfault⟩
    rw [hurl] at hf
    contradiction
  · obtain ⟨url', hurl', rfl⟩ := prepare_eq_ok_iff.mp hprepared'
    cases hurl.symm.trans hurl'
    rw [timeless c method url body now now' h.passed] at hrefused
    contradiction

end KeyApproval
