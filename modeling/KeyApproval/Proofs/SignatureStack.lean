import KeyApproval.Proofs.Authorization

/-!
# Signatures over signatures

Signing fails for the empty list and for nothing else, whatever the user, the secret and the body are. A signer
may sign a list that holds its own signatures already: each call adds one header at the end, which covers all
that stand before it. On the empty list every call is refused and leaves it empty, so it never gets a first
header this way.
-/

namespace KeyApproval.Signing

open Http

/-! ### Signing once -/

variable {l : Headers}

theorem isEmpty_eq_false_iff : l.isEmpty = false ↔ l.toList ≠ [] := by
  rw [Headers.isEmpty, List.isEmpty_eq_false_iff]

theorem sign_of_isEmpty (h : l.isEmpty = true) (c : Credentials) (body : Option String) :
    sign l c body = .error (.signing "Refusing to sign a request without headers") := by
  rw [sign, if_pos h]

theorem exists_error_sign_iff (c : Credentials) (body : Option String) :
    (∃ e, sign l c body = .error e) ↔ l.toList = [] := by
  cases hempty : l.isEmpty with
  | true =>
    have hnil : l.toList = [] := List.isEmpty_iff.mp hempty
    exact iff_of_true ⟨_, sign_of_isEmpty hempty c body⟩ hnil
  | false =>
    refine iff_of_false ?_ (isEmpty_eq_false_iff.mp hempty)
    rintro ⟨e, herror⟩
    rw [sign_eq hempty] at herror
    contradiction

theorem text_algorithm (username names code : String) :
    Authorization.text ⟨username, algorithm, names, code⟩ =
      "hmac username=\"" ++ username ++ "\", algorithm=\"sha512\", headers=\"" ++ names ++ "\", signature=\"" ++
        code ++ "\"" := by
  have hmiddle : "\", algorithm=\"" ++ algorithm ++ "\", headers=\"" =
      "\", algorithm=\"sha512\", headers=\"" := by
    decide +kernel
  calc Authorization.text ⟨username, algorithm, names, code⟩
      = "hmac username=\"" ++ username ++ "\", algorithm=\"" ++ algorithm ++ "\", headers=\"" ++ names ++
          "\", signature=\"" ++ code ++ "\"" := rfl
    _ = "hmac username=\"" ++ username ++ "\", algorithm=\"sha512\", headers=\"" ++ names ++
          "\", signature=\"" ++ code ++ "\"" := by
        rw [← hmiddle]
        simp only [String.append_assoc]

/-- The code is the digits of the bytes that the keyed hash gives. -/
theorem decode?_codeOf (l : Headers) (secret : String) (body : Option String) :
    Text.Hex.decode? (codeOf l secret body).toList =
      some (Digest.Hmac.code (Text.Utf8.encodeString secret) (Text.Utf8.encodeString (signedText l body))) := by
  rw [codeOf, signature, String.toList_ofList, Text.Hex.decode?_encodeUpper]

/-! ### Signing again -/

/-- One call of a signer on a list. A call that is refused leaves the list as it was. -/
def attempt (c : Credentials) (l : Headers) (body : Option String) : Except ClientError Unit × Headers :=
  match authorize l c body with
  | .ok signed => (.ok (), signed)
  | .error e => (.error e, l)

/-- What calls with these bodies answer one after the other, and the list that is left. -/
def authorizeAll (c : Credentials) : Headers → List (Option String) → List (Except ClientError Unit) × Headers
  | l, [] => ([], l)
  | l, body :: bodies =>
    let first := attempt c l body
    let rest := authorizeAll c first.2 bodies
    (first.1 :: rest.1, rest.2)

/-- The values that calls with these bodies add to a list: each signs the list together with the values before
it. -/
inductive Stacked (c : Credentials) : Headers → List (Option String) → List String → Prop where
  | nil (l : Headers) : Stacked c l [] []
  | cons {l : Headers} {body : Option String} {value : String} {bodies : List (Option String)}
      {values : List String} (hsign : sign l c body = .ok value)
      (rest : Stacked c (l.append ⟨"Authorization", value⟩ isName_authorization) bodies values) :
      Stacked c l (body :: bodies) (value :: values)

def authorization (value : String) : Header := ⟨"Authorization", value⟩

theorem attempt_of_isEmpty (h : l.isEmpty = true) (c : Credentials) (body : Option String) :
    attempt c l body = (.error (.signing "Refusing to sign a request without headers"), l) := by
  rw [attempt, authorize, sign_of_isEmpty h]
  rfl

theorem attempt_of_sign {c : Credentials} {body : Option String} {value : String}
    (h : sign l c body = .ok value) :
    attempt c l body = (.ok (), l.append ⟨"Authorization", value⟩ isName_authorization) := by
  rw [attempt, authorize, h]
  rfl

/-- The empty list stays empty. -/
theorem authorizeAll_of_isEmpty (h : l.isEmpty = true) (c : Credentials) (bodies : List (Option String)) :
    authorizeAll c l bodies =
      (bodies.map fun _ => .error (.signing "Refusing to sign a request without headers"), l) := by
  induction bodies with
  | nil => rfl
  | cons body bodies ih => rw [authorizeAll, attempt_of_isEmpty h, ih, List.map_cons]

theorem exists_stacked (h : l.isEmpty = false) (c : Credentials) (bodies : List (Option String)) :
    ∃ values, Stacked c l bodies values := by
  induction bodies generalizing l with
  | nil => exact ⟨[], .nil l⟩
  | cons body bodies ih =>
    have hsign := sign_eq h c body
    have hnext (value : String) :
        (l.append ⟨"Authorization", value⟩ isName_authorization).isEmpty = false := by
      rw [isEmpty_eq_false_iff, Headers.toList_append]
      simp
    obtain ⟨values, hvalues⟩ := ih (hnext _)
    exact ⟨_ :: values, .cons hsign hvalues⟩

namespace Stacked

variable {c : Credentials} {bodies : List (Option String)} {values : List String}

theorem authorizeAll_fst (h : Stacked c l bodies values) :
    (authorizeAll c l bodies).1 = bodies.map fun _ => .ok () := by
  induction h with
  | nil => rfl
  | cons hsign _ ih => rw [authorizeAll, attempt_of_sign hsign, List.map_cons, ih]

theorem toList_authorizeAll (h : Stacked c l bodies values) :
    (authorizeAll c l bodies).2.toList = l.toList ++ values.map authorization := by
  induction h with
  | nil l => rw [authorizeAll, List.map_nil, List.append_nil]
  | cons hsign _ ih =>
    rw [authorizeAll, attempt_of_sign hsign, List.map_cons]
    dsimp only
    rw [ih, Headers.toList_append, List.append_assoc]
    rfl

theorem length_eq (h : Stacked c l bodies values) : values.length = bodies.length := by
  induction h with
  | nil => rfl
  | cons _ _ ih => rw [List.length_cons, List.length_cons, ih]

/-- Each value signs the list and the values before it. -/
theorem sign_eq_of_getElem? (h : Stacked c l bodies values) {i : Nat} {body : Option String}
    (hbody : bodies[i]? = some body) :
    ∃ value covered, values[i]? = some value ∧
      covered.toList = l.toList ++ (values.take i).map authorization ∧ sign covered c body = .ok value := by
  induction h generalizing i with
  | nil => simp at hbody
  | @cons l first value bodies values hsign _ ih =>
    cases i with
    | zero =>
      rw [List.getElem?_cons_zero, Option.some.injEq] at hbody
      subst hbody
      exact ⟨value, l, rfl, by simp, hsign⟩
    | succ i =>
      rw [List.getElem?_cons_succ] at hbody
      obtain ⟨later, covered, hlater, hcovered, hcode⟩ := ih hbody
      refine ⟨later, covered, hlater, ?_, hcode⟩
      rw [hcovered, Headers.toList_append, List.take_succ_cons, List.map_cons, List.append_assoc]
      rfl

end Stacked

/-- Signing fails for the empty list only, and else gives the one text of its form whose code are the digits of
the keyed hash. Repeated calls leave the empty list empty; any other they extend by one header each, and each
of these signs all that stand before it. -/
theorem sign_total_and_stacked (c : Credentials) (l : Headers) :
    (∀ body, (∃ e, sign l c body = .error e) ↔ l.toList = []) ∧
    (l.toList ≠ [] → ∀ body, ∃ code,
      sign l c body = .ok ("hmac username=\"" ++ c.username ++ "\", algorithm=\"sha512\", headers=\"" ++
        canonicalNames l ++ "\", signature=\"" ++ code ++ "\"") ∧
      IsCode code ∧ Text.Hex.decode? code.toList =
        some (Digest.Hmac.code (secretBytes c) (Text.Utf8.encodeString (signedText l body)))) ∧
    (l.toList = [] → ∀ bodies, (∀ result ∈ (authorizeAll c l bodies).1, ∃ e, result = .error e) ∧
      (authorizeAll c l bodies).1.length = bodies.length ∧ (authorizeAll c l bodies).2 = l) ∧
    (l.toList ≠ [] → ∀ bodies, ∃ values : List String, values.length = bodies.length ∧
      (authorizeAll c l bodies).1 = bodies.map (fun _ => .ok ()) ∧
      (authorizeAll c l bodies).2.toList = l.toList ++ values.map authorization ∧
      ∀ i body, bodies[i]? = some body → ∃ value covered, values[i]? = some value ∧
        covered.toList = l.toList ++ (values.take i).map authorization ∧ sign covered c body = .ok value) := by
  refine ⟨exists_error_sign_iff c, fun hne body => ?_, fun hnil bodies => ?_, fun hne bodies => ?_⟩
  · have hsign := sign_eq (isEmpty_eq_false_iff.mpr hne) c body
    rw [text_algorithm] at hsign
    exact ⟨codeOf l c.secret body, hsign, isCode_signature _ _, decode?_codeOf l c.secret body⟩
  · rw [authorizeAll_of_isEmpty (List.isEmpty_iff.mpr hnil) c bodies]
    refine ⟨fun result hresult => ?_, List.length_map _, rfl⟩
    obtain ⟨_, -, rfl⟩ := List.mem_map.mp hresult
    exact ⟨_, rfl⟩
  · obtain ⟨values, hvalues⟩ := exists_stacked (isEmpty_eq_false_iff.mpr hne) c bodies
    exact ⟨values, hvalues.length_eq, hvalues.authorizeAll_fst, hvalues.toList_authorizeAll,
      fun i body hbody => hvalues.sign_eq_of_getElem? hbody⟩

end KeyApproval.Signing
