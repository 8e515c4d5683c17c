import KeyApproval.Proofs.Answers
import KeyApproval.Proofs.BaseUrl
import KeyApproval.Proofs.JsonText
import Mathlib.Tactic.SplitIfs

/-!
# What the decoders accept

The answers to the first two calls are objects in JSON of which one member counts. An answer is decoded
exactly when that member says something, and else the error tells what is wrong: the status, the text of
the body, the word of the member, or its form.
-/

namespace KeyApproval

open Json

/-! ### Members -/

namespace Json

/-- The last member of that name has this value. -/
def LastMember (members : List (String × Value)) (name : String) (v : Value) : Prop :=
  ∃ front back, members = front ++ (name, v) :: back ∧ ∀ m ∈ back, m.1 ≠ name

theorem member?_eq_some_iff {members : List (String × Value)} {name : String} {v : Value} :
    (Value.object members).member? name = some v ↔ LastMember members name v := by
  simp only [Value.member?, Option.map_eq_some_iff, List.find?_eq_some_iff_append]
  constructor
  · rintro ⟨⟨found, _⟩, ⟨hname, back, front, hmembers, hback⟩, rfl⟩
    obtain rfl := eq_of_beq hname
    refine ⟨front.reverse, back.reverse, ?_, fun m hm => ?_⟩
    · rw [← List.reverse_reverse members, hmembers]
      simp
    · simpa using hback m (List.mem_reverse.mp hm)
  · rintro ⟨front, back, rfl, hback⟩
    refine ⟨(name, v), ⟨beq_self_eq_true name, back.reverse, front.reverse, by simp, fun m hm => ?_⟩, rfl⟩
    simpa using hback m (List.mem_reverse.mp hm)

end Json

namespace Http.Response

/-- The body is an object in JSON whose last member of that name has this value. -/
def Says (r : Response) (name : String) (v : Value) : Prop :=
  ∃ members, IsText r.body (.object members) ∧ LastMember members name v

theorem hasMember_iff {r : Response} {name : String} {v : Value} : r.HasMember name v ↔ r.Says name v := by
  unfold HasMember Says
  simp only [read_eq_ok_iff]
  constructor
  · rintro ⟨whole, htext, hmember⟩
    cases whole with
    | object members => exact ⟨members, htext, member?_eq_some_iff.mp hmember⟩
    | null | bool | number | string | array => cases hmember
  · rintro ⟨members, htext, hmember⟩
    exact ⟨_, htext, member?_eq_some_iff.mpr hmember⟩

theorem Says.exists_text {r : Response} {name : String} {v : Value} (h : r.Says name v) : ∃ v, IsText r.body v := by
  obtain ⟨members, htext, -⟩ := h
  exact ⟨_, htext⟩

theorem Says.unique {r : Response} {name : String} {v v' : Value} (h : r.Says name v) (h' : r.Says name v') : v = v' := by
  obtain ⟨members, htext, hlast⟩ := h
  obtain ⟨members', htext', hlast'⟩ := h'
  obtain rfl := Value.object.inj (htext.unique htext')
  exact Option.some.inj ((member?_eq_some_iff.mpr hlast).symm.trans (member?_eq_some_iff.mpr hlast'))

/-- The number that the body grants: an integer without sign, fraction and exponent. -/
def SaysNumber (r : Response) (n : UInt64) : Prop :=
  ∃ digits, r.Says "id" (.number ⟨false, digits, [], none⟩) ∧ Text.digitsValue 10 digits = n.toNat

/-- The words of the server for the stages that it reports. -/
def vocabulary : List (String × Stage) :=
  [("PENDING", .pending), ("ACCEPTED", .accepted), ("DENIED", .denied), ("FULFILLED", .fulfilled)]

def SaysStage (r : Response) (stage : Stage) : Prop :=
  ∃ word, r.Says "state" (.string word) ∧ (word, stage) ∈ vocabulary

def SaysUnknown (r : Response) (word : String) : Prop :=
  r.Says "state" (.string word) ∧ ∀ stage, (word, stage) ∉ vocabulary

end Http.Response

namespace Client

open Http

/-- What a result says about the answer that it was decoded from, and the other way round. -/
structure Classifies {α : Type} (status : UInt16) (r : Response) (good : α → Prop) (unknown : String → Prop)
    (result : Except ClientError α) : Prop where
  ok (a : α) : result = .ok a ↔ r.status = status ∧ good a
  authentication (code : UInt16) : result = .error (.authentication code) ↔ r.status = 401 ∧ code = 401
  unexpectedStatus (code : UInt16) (text : String) : result = .error (.unexpectedStatus code text) ↔
    r.status ≠ status ∧ r.status ≠ 401 ∧ code = r.status ∧ text = r.lossyText
  serialization : (∃ cause, result = .error (.serialization cause)) ↔
    r.status = status ∧ ¬ ∃ v, IsText r.body v
  unknownState (word : String) : result = .error (.unknownState word) ↔ r.status = status ∧ unknown word
  invalidResponse : (∃ reason, result = .error (.invalidResponse reason)) ↔
    r.status = status ∧ (∃ v, IsText r.body v) ∧ (∀ a, ¬ good a) ∧ ∀ word, ¬ unknown word

variable {α : Type} {r : Response} {status : UInt16} {contentType : String}

theorem decodeWith_eq_error_iff {read : Response → Except ClientError α} {e : ClientError} :
    (decodeWith status contentType read r).result = .error e ↔
      r.status ≠ status ∧ r.status = 401 ∧ e = .authentication 401 ∨
      r.status ≠ status ∧ r.status ≠ 401 ∧ e = .unexpectedStatus r.status r.lossyText ∨
      r.status = status ∧ read r = .error e := by
  have hconsult : consult (decodeWith status contentType read) (.ok r) =
      (decodeWith status contentType read r).result := rfl
  rw [← hconsult, consult_eq_error_iff]
  constructor
  · intro h
    cases h with
    | unauthorized other h => exact .inl ⟨other, h, rfl⟩
    | refused other h => exact .inr (.inl ⟨other, h, rfl⟩)
    | unreadable expected h => exact .inr (.inr ⟨expected, h⟩)
  · rintro (⟨other, h, rfl⟩ | ⟨other, h, rfl⟩ | ⟨expected, h⟩)
    · exact .unauthorized other h
    · exact .refused other h
    · exact .unreadable expected h

/-- A reader of one member fails for the text, for want of the member, or for what the member says. -/
theorem readMember_bind_eq_error_iff {name : String} {f : Value → Except ClientError α} {e : ClientError} :
    (do let v ← readMember name (← readJson r); f v) = .error e ↔
      (¬ ∃ v, IsText r.body v) ∧ (∃ cause, Json.read r.body = .error cause ∧ e = .serialization cause) ∨
      ((∃ v, IsText r.body v) ∧ ¬ ∃ v, r.Says name v) ∧
        e = .invalidResponse ("Key \"" ++ name ++ "\" not found") ∨
      ∃ v, r.Says name v ∧ f v = .error e := by
  simp only [← Response.hasMember_iff, ← read_eq_ok_iff]
  unfold readJson Response.HasMember
  cases hread : Json.read r.body with
  | error cause => simp [bind, Except.bind, eq_comm]
  | ok whole =>
    unfold readMember
    cases hmember : whole.member? name with
    | none => simp [bind, Except.bind, hmember, eq_comm]
    | some v => simp [bind, Except.bind, hmember]

/-- Readers of one member whose errors about it are of two kinds. -/
theorem classifies_decodeWith {name : String} {f : Value → Except ClientError α} {good : α → Prop}
    {unknown : String → Prop} (hstatus : status ≠ 401)
    (hgood : ∀ a, (∃ v, r.Says name v ∧ f v = .ok a) ↔ good a)
    (hunknown : ∀ word, (∃ v, r.Says name v ∧ f v = .error (.unknownState word)) ↔ unknown word)
    (hkinds : ∀ v e, f v = .error e →
      (∃ word, e = .unknownState word) ∨ ∃ reason, e = .invalidResponse reason) :
    Classifies status r good unknown
      (decodeWith status contentType (fun r => do let v ← readMember name (← readJson r); f v) r).result := by
  have hauthentication (v : Value) (code : UInt16) : f v ≠ .error (.authentication code) :=
    fun h => by simpa using hkinds v _ h
  have hunexpected (v : Value) (code : UInt16) (text : String) : f v ≠ .error (.unexpectedStatus code text) :=
    fun h => by simpa using hkinds v _ h
  have hserialization (v : Value) (cause : Json.Error) : f v ≠ .error (.serialization cause) :=
    fun h => by simpa using hkinds v _ h
  constructor
  case ok =>
    intro a
    rw [decodeWith_eq_ok_iff, readMember_bind_eq_ok_iff, ← hgood a]
    simp only [Response.hasMember_iff]
  case authentication =>
    intro code
    simp only [decodeWith_eq_error_iff, readMember_bind_eq_error_iff, hauthentication,
      ClientError.authentication.injEq, reduceCtorEq, and_false, exists_false, or_false]
    constructor
    · rintro ⟨-, h⟩
      exact h
    · rintro ⟨h, hcode⟩
      exact ⟨fun hs => hstatus (hs.symm.trans h), h, hcode⟩
  case unexpectedStatus =>
    intro code text
    simp only [decodeWith_eq_error_iff, readMember_bind_eq_error_iff, hunexpected,
      ClientError.unexpectedStatus.injEq, reduceCtorEq, and_false, exists_false, or_false, false_or]
  case serialization =>
    have hcause : (¬ ∃ v, IsText r.body v) → ∃ cause, Json.read r.body = .error cause := by
      intro hnone
      cases hread : Json.read r.body with
      | error cause => exact ⟨cause, rfl⟩
      | ok v => exact absurd ⟨v, read_eq_ok_iff.mp hread⟩ hnone
    simp only [decodeWith_eq_error_iff, readMember_bind_eq_error_iff, hserialization,
      ClientError.serialization.injEq, reduceCtorEq, and_false, exists_false, or_false, false_or]
    constructor
    · rintro ⟨-, hstatus, hnone, -⟩
      exact ⟨hstatus, hnone⟩
    · rintro ⟨hstatus, hnone⟩
      obtain ⟨cause, hread⟩ := hcause hnone
      exact ⟨cause, hstatus, hnone, cause, hread, rfl⟩
  case unknownState =>
    intro word
    simp only [decodeWith_eq_error_iff, readMember_bind_eq_error_iff, hunknown, reduceCtorEq, and_false,
      exists_false, false_or]
  case invalidResponse =>
    simp only [decodeWith_eq_error_iff, readMember_bind_eq_error_iff, reduceCtorEq, and_false,
      exists_false, false_or, ClientError.invalidResponse.injEq]
    constructor
    · rintro ⟨reason, hstatus, ⟨⟨htext, hnone⟩, -⟩ | ⟨v, hsaid, hv⟩⟩
      · refine ⟨hstatus, htext, fun a ha => ?_, fun word hword => ?_⟩
        · obtain ⟨v, hsaid, -⟩ := (hgood a).mpr ha
          exact hnone ⟨v, hsaid⟩
        · obtain ⟨v, hsaid, -⟩ := (hunknown word).mpr hword
          exact hnone ⟨v, hsaid⟩
      · refine ⟨hstatus, hsaid.exists_text, fun a ha => ?_, fun word hword => ?_⟩
        · obtain ⟨v', hsaid', hv'⟩ := (hgood a).mpr ha
          obtain rfl := hsaid.unique hsaid'
          cases hv.symm.trans hv'
        · obtain ⟨v', hsaid', hv'⟩ := (hunknown word).mpr hword
          obtain rfl := hsaid.unique hsaid'
          cases hv.symm.trans hv'
    · rintro ⟨hstatus, htext, hbad, hknown⟩
      by_cases hsaid : ∃ v, r.Says name v
      · obtain ⟨v, hsaid⟩ := hsaid
        cases hv : f v with
        | ok a => exact absurd ((hgood a).mp ⟨v, hsaid, hv⟩) (hbad a)
        | error e =>
          rcases hkinds v e hv with ⟨word, rfl⟩ | ⟨reason, rfl⟩
          · exact absurd ((hunknown word).mp ⟨v, hsaid, hv⟩) (hknown word)
          · exact ⟨reason, hstatus, .inr ⟨v, hsaid, hv⟩⟩
      · exact ⟨_, hstatus, .inl ⟨⟨htext, hsaid⟩, rfl⟩⟩

/-! ### The two decoders -/

theorem natural?_eq_some_iff {v : Value} {n : UInt64} :
    v.natural? = some n ↔
      ∃ digits, v = .number ⟨false, digits, [], none⟩ ∧ Text.digitsValue 10 digits = n.toNat := by
  cases v with
  | number m =>
    obtain ⟨negative, whole, fraction, exponent⟩ := m
    simp only [Value.natural?, Numeral.natural?, Value.number.injEq, Numeral.mk.injEq]
    constructor
    · intro h
      split_ifs at h with hbad
      simp only [not_or, Bool.not_eq_true, not_not, Option.isSome_eq_false_iff, Option.isNone_iff_eq_none,
        Nat.not_le] at hbad
      obtain ⟨rfl, rfl, rfl, hlt⟩ := hbad
      obtain rfl := Option.some.inj h
      refine ⟨whole, ⟨rfl, rfl, rfl, rfl⟩, ?_⟩
      exact (UInt64.toNat_ofNat_of_lt hlt).symm
    · rintro ⟨digits, ⟨rfl, rfl, rfl, rfl⟩, hvalue⟩
      rw [hvalue, if_neg]
      · exact congrArg some (UInt64.ofNat_toNat)
      · simpa using n.toNat_lt
  | null | bool | string | array | object => simp [Value.natural?]

theorem ofServer?_eq_some_iff_mem {word : String} {stage : Stage} :
    Stage.ofServer? word = some stage ↔ (word, stage) ∈ Response.vocabulary := by
  rw [ofServer?_eq_some_iff, Stage.IsServed]
  cases stage <;> simp [Response.vocabulary, Stage.text]

/-- The number that a member stands for. -/
def numberOf (v : Value) : Except ClientError UInt64 :=
  match v.natural? with
  | some n => .ok n
  | none => .error (.invalidResponse "Value of key \"id\" is not numeric")

theorem decodeId_eq :
    decodeId = decodeWith 201 json (fun r => do let v ← readMember "id" (← readJson r); numberOf v) := rfl

theorem numberOf_eq_ok_iff {v : Value} {n : UInt64} : numberOf v = .ok n ↔ v.natural? = some n := by
  unfold numberOf
  cases v.natural? <;> simp

theorem exists_reason_of_numberOf {v : Value} {e : ClientError} (h : numberOf v = .error e) :
    ∃ reason, e = .invalidResponse reason := by
  unfold numberOf at h
  split at h
  · cases h
  · cases h
    exact ⟨_, rfl⟩

theorem classifies_decodeId (r : Response) :
    Classifies 201 r r.SaysNumber (fun _ => False) (decodeId r).result := by
  rw [decodeId_eq]
  refine classifies_decodeWith (by decide) (fun n => ?_) (fun word => ?_) fun v e h =>
    .inr (exists_reason_of_numberOf h)
  · simp only [numberOf_eq_ok_iff, natural?_eq_some_iff]
    constructor
    · rintro ⟨_, hsaid, digits, rfl, hdigits⟩
      exact ⟨digits, hsaid, hdigits⟩
    · rintro ⟨digits, hsaid, hdigits⟩
      exact ⟨_, hsaid, digits, rfl, hdigits⟩
  · refine iff_false_intro ?_
    rintro ⟨v, -, hv⟩
    obtain ⟨reason, hreason⟩ := exists_reason_of_numberOf hv
    cases hreason

/-- The stage that a member stands for. -/
def stageOf (v : Value) : Except ClientError Stage :=
  match v.text? with
  | none => .error (.invalidResponse "Value of key \"state\" is not a string")
  | some text =>
    match Stage.ofServer? text with
    | some s => .ok s
    | none => .error (.unknownState text)

theorem decodeState_eq :
    decodeState = decodeWith 200 json (fun r => do let v ← readMember "state" (← readJson r); stageOf v) := rfl

theorem stageOf_of_known {word : String} {stage : Stage} (h : (word, stage) ∈ Response.vocabulary) :
    stageOf (.string word) = .ok stage := by
  simp only [stageOf, Value.text?, ofServer?_eq_some_iff_mem.mpr h]

theorem stageOf_of_unknown {word : String} (h : ∀ stage, (word, stage) ∉ Response.vocabulary) :
    stageOf (.string word) = .error (.unknownState word) := by
  have hnone : Stage.ofServer? word = none :=
    Option.eq_none_iff_forall_ne_some.mpr fun stage hs => h stage (ofServer?_eq_some_iff_mem.mp hs)
  simp only [stageOf, Value.text?, hnone]

/-- A member is a word of the vocabulary, another word, or no word. -/
theorem stageOf_cases (v : Value) :
    (∃ word stage, v = .string word ∧ (word, stage) ∈ Response.vocabulary ∧ stageOf v = .ok stage) ∨
    (∃ word, v = .string word ∧ (∀ stage, (word, stage) ∉ Response.vocabulary) ∧
      stageOf v = .error (.unknownState word)) ∨
    (∀ word, v ≠ .string word) ∧ ∃ reason, stageOf v = .error (.invalidResponse reason) := by
  cases v with
  | string word =>
    by_cases hknown : ∃ stage, (word, stage) ∈ Response.vocabulary
    · obtain ⟨stage, hstage⟩ := hknown
      exact .inl ⟨word, stage, rfl, hstage, stageOf_of_known hstage⟩
    · rw [not_exists] at hknown
      exact .inr (.inl ⟨word, rfl, hknown, stageOf_of_unknown hknown⟩)
  | null | bool | number | array | object => exact .inr (.inr ⟨by simp, _, rfl⟩)

theorem classifies_decodeState (r : Response) :
    Classifies 200 r r.SaysStage r.SaysUnknown (decodeState r).result := by
  rw [decodeState_eq]
  refine classifies_decodeWith (by decide) (fun stage => ?_) (fun word => ?_) (fun v e h => ?_)
  · constructor
    · rintro ⟨v, hsaid, hv⟩
      rcases stageOf_cases v with ⟨word, told, rfl, hmem, hok⟩ | ⟨word, -, -, herror⟩ | ⟨-, reason, herror⟩
      · cases hv.symm.trans hok
        exact ⟨word, hsaid, hmem⟩
      · cases hv.symm.trans herror
      · cases hv.symm.trans herror
    · rintro ⟨word, hsaid, hmem⟩
      exact ⟨_, hsaid, stageOf_of_known hmem⟩
  · constructor
    · rintro ⟨v, hsaid, hv⟩
      rcases stageOf_cases v with ⟨-, told, -, -, hok⟩ | ⟨other, rfl, hno, herror⟩ | ⟨-, reason, herror⟩
      · cases hv.symm.trans hok
      · cases hv.symm.trans herror
        exact ⟨hsaid, hno⟩
      · cases hv.symm.trans herror
    · rintro ⟨hsaid, hno⟩
      exact ⟨_, hsaid, stageOf_of_unknown hno⟩
  · rcases stageOf_cases v with ⟨-, told, -, -, hok⟩ | ⟨word, -, -, herror⟩ | ⟨-, reason, herror⟩
    · cases h.symm.trans hok
    · cases h.symm.trans herror
      exact .inl ⟨word, rfl⟩
    · cases h.symm.trans herror
      exact .inr ⟨reason, rfl⟩

/-- The answers that grant a number are told from all others, and so are those that tell a stage: a call
that is answered returns what its answer says, and each error tells what the answer lacks. -/
theorem answers_classified :
    (∀ (c : Client) (handle : String) (w : World) (r : Response),
      c.Hears .post requestsPath (some (createBody handle)) w r →
        ∃ result, (c.requestKey handle w).1 = .value result ∧
          Classifies 201 r r.SaysNumber (fun _ => False) result) ∧
    ∀ (c : Client) (id : UInt64) (w : World) (r : Response), c.Hears .get (requestPath id) none w r →
      ∃ result, (c.inquire id w).1 = .value result ∧ Classifies 200 r r.SaysStage r.SaysUnknown result :=
  ⟨fun _ _ _ r h => ⟨_, call_of_hears h decodeId, classifies_decodeId r⟩,
    fun _ _ _ r h => ⟨_, call_of_hears h decodeState, classifies_decodeState r⟩⟩

/-- Of two members of one name the last one counts, and a stage in lower case is unknown. -/
theorem answers_classified_loopback :
    let answers (status : UInt16) (body : String) : World :=
      ⟨⟨fun _ => .ok (), .network none⟩, fun _ => default, 0,
        [⟨false, 0, some (.ok ⟨status, .empty, Text.Utf8.encodeString body⟩)⟩], 0, ⟨false, none, none⟩, 0, []⟩
    (loopback.requestKey "disk" (answers 201 (Text.braced "\"id\": 1, \"\\u0069d\": 7"))).1 = .value (.ok 7) ∧
      (loopback.inquire 7 (answers 200 (Text.braced "\"state\": \"pending\""))).1 =
        .value (.error (.unknownState "pending")) := by
  intro answers
  obtain ⟨hkey, hstate⟩ := answers_classified
  constructor
  · let body := Text.Utf8.encodeString (Text.braced "\"id\": 1, \"\\u0069d\": 7")
    obtain ⟨request, hrequest⟩ := exists_prepare_requestsPath made_loopback (.inr rfl) .post
      (some (createBody "disk")) (answers 201 (Text.braced "\"id\": 1, \"\\u0069d\": 7")).readClock.1
    obtain ⟨result, hresult, hclasses⟩ := hkey loopback "disk" _ ⟨201, .empty, body⟩ ⟨request, hrequest, rfl⟩
    have hsaid := ((classifies_decodeId ⟨201, .empty, body⟩).ok 7).mp (by decide +kernel)
    rw [hresult, (hclasses.ok 7).mpr hsaid]
  · let body := Text.Utf8.encodeString (Text.braced "\"state\": \"pending\"")
    obtain ⟨request, hrequest⟩ := exists_prepare_requestPath made_loopback (.inr rfl) 7 .get none
      (answers 200 (Text.braced "\"state\": \"pending\"")).readClock.1
    obtain ⟨result, hresult, hclasses⟩ := hstate loopback 7 _ ⟨200, .empty, body⟩ ⟨request, hrequest, rfl⟩
    have hsaid := ((classifies_decodeState ⟨200, .empty, body⟩).unknownState "pending").mp (by decide +kernel)
    rw [hresult, (hclasses.unknownState "pending").mpr hsaid]

end Client

end KeyApproval
